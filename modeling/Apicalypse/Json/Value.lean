import Apicalypse.Json.Number
import Apicalypse.Json.Text

/-!
# Values of JSON

* `Value`: the values. The members of an object keep their order, and names may repeat.
* `Value.render`: the compact text of a value.
* `read`: the value at the start of a list of tokens and the tokens after it. A machine takes one
  token at a time and keeps the open lists and objects on a stack.
* `skip`: passes over a value whose content does not matter: its numbers may be too large, its
  strings may hold halves of pairs, and it may nest as deep as it likes.
-/

namespace Apicalypse.Json

/-- A JSON value. -/
inductive Value where
  | null
  | boolean (value : Bool)
  | number (number : Number)
  | string (text : String)
  | list (items : List Value)
  | object (members : List (String × Value))
  deriving Repr

namespace Value

instance : Inhabited Value := ⟨null⟩

/-- What holds of every scalar, and of a list or an object when it holds of the values in it, holds
of every value. -/
theorem induction {P : Value → Prop} (null : P .null) (boolean : ∀ value, P (.boolean value))
    (number : ∀ n, P (.number n)) (string : ∀ text, P (.string text))
    (list : ∀ items, (∀ item ∈ items, P item) → P (.list items))
    (object : ∀ members, (∀ member ∈ members, P member.2) → P (.object members))
    (value : Value) : P value := by
  match value with
  | .null => exact null
  | .boolean value => exact boolean value
  | .number n => exact number n
  | .string text => exact string text
  | .list items =>
    exact list items fun item _ => induction null boolean number string list object item
  | .object members =>
    exact object members fun member _ => induction null boolean number string list object member.2
termination_by sizeOf value
decreasing_by
  · have := List.sizeOf_lt_of_mem ‹item ∈ items›
    simp only [Value.list.sizeOf_spec]
    omega
  · have := List.sizeOf_lt_of_mem ‹member ∈ members›
    cases member
    simp only [Value.object.sizeOf_spec, Prod.mk.sizeOf_spec] at this ⊢
    omega

/-! ## Writing -/

mutual

/-- The compact text of a value. -/
def write : Value → List Char
  | null => ['n', 'u', 'l', 'l']
  | boolean true => ['t', 'r', 'u', 'e']
  | boolean false => ['f', 'a', 'l', 's', 'e']
  | number n => n.text.toList
  | string text => encode text.toList
  | list items => '[' :: (writeItems items ++ [']'])
  | object members => '\x7b' :: (writeMembers members ++ ['\x7d'])

/-- The items of a list with commas between them. -/
def writeItems : List Value → List Char
  | [] => []
  | [item] => item.write
  | item :: next :: rest => item.write ++ ',' :: writeItems (next :: rest)

/-- The members of an object with commas between them. -/
def writeMembers : List (String × Value) → List Char
  | [] => []
  | [member] => writeMember member
  | member :: next :: rest => writeMember member ++ ',' :: writeMembers (next :: rest)

/-- A member's name and value. -/
def writeMember : String × Value → List Char
  | (name, value) => encode name.toList ++ ':' :: value.write

end

/-- The compact text of a value. -/
def render (value : Value) : String := String.ofList value.write

end Value

/-! ## Reading -/

/-- A list or an object that waits for the value of an item or of a member. What has been read of
it before is kept in reverse. -/
inductive Frame where
  | list (items : List Value)
  | member (members : List (String × Value)) (name : String)

/-- How the leaves of a value are read, and how deep it may nest. -/
structure Reading where
  number : NumberLiteral → Except Failure Number
  text : StringLiteral → Except Failure String
  brokenNumber : Failure → Failure
  /-- How many lists and objects may be open at once. -/
  depth : Option Nat

namespace Reading

/-- The greatest number of lists and objects that may be open at once. -/
def maxDepth : Nat := 127

/-- Every leaf is read for its value. -/
def exact : Reading where
  number := NumberLiteral.number
  text := StringLiteral.text
  brokenNumber := id
  depth := some maxDepth

/-- The leaves need only be spelt well. -/
def skimming : Reading where
  number _ := .ok (.integer 0)
  text literal := match literal.broken with
    | none => .ok ""
    | some failure => .error failure
  brokenNumber _ := .malformed
  depth := none

/-- One more list or object may be opened inside those that wait. -/
def admits (reading : Reading) (waiting : List Frame) : Bool :=
  match reading.depth with
  | none => true
  | some depth => waiting.length < depth

end Reading

/-- What the next token may be. -/
inductive Expectation where
  | value
  /-- The first item of a list, or its end. -/
  | firstItem
  /-- A comma after the items of a list, or its end. -/
  | afterItem (items : List Value)
  /-- The first name of an object, or its end. -/
  | firstName
  /-- A name after a comma. -/
  | nextName (members : List (String × Value))
  /-- The colon after a name. -/
  | colon (members : List (String × Value)) (name : String)
  /-- A comma after the members of an object, or its end. -/
  | afterMember (members : List (String × Value))

/-- What a token leads to. -/
inductive Progress where
  | finished (value : Value)
  | expecting (next : Expectation) (stack : List Frame)

/-- A value is complete: it is the answer, or belongs to what waits for it. -/
def complete (value : Value) : List Frame → Progress
  | [] => .finished value
  | .list items :: stack => .expecting (.afterItem (value :: items)) stack
  | .member members name :: stack => .expecting (.afterMember ((name, value) :: members)) stack

namespace Reading

variable (reading : Reading)

/-- A token where a value starts. -/
def startValue (stack : List Frame) : Token → Except Failure Progress
  | .null => .ok (complete .null stack)
  | .boolean value => .ok (complete (.boolean value) stack)
  | .number literal => return complete (.number (← reading.number literal)) stack
  | .string literal => return complete (.string (← reading.text literal)) stack
  | .brokenWord failure => .error failure
  | .brokenNumber failure => .error (reading.brokenNumber failure)
  | .openList =>
    if reading.admits stack then .ok (.expecting .firstItem stack) else .error .malformed
  | .openObject =>
    if reading.admits stack then .ok (.expecting .firstName stack) else .error .malformed
  | .closeList | .closeObject | .comma | .colon | .stray => .error .malformed

/-- A token where a name stands. -/
def readName (members : List (String × Value)) (stack : List Frame) :
    Token → Except Failure Progress
  | .string literal => return .expecting (.colon members (← reading.text literal)) stack
  | _ => .error .malformed

/-- One token. -/
def step (stack : List Frame) : Expectation → Token → Except Failure Progress
  | .value, token => reading.startValue stack token
  | .firstItem, .closeList => .ok (complete (.list []) stack)
  | .firstItem, token => reading.startValue (.list [] :: stack) token
  | .afterItem items, .closeList => .ok (complete (.list items.reverse) stack)
  | .afterItem items, .comma => .ok (.expecting .value (.list items :: stack))
  | .afterItem _, _ => .error .malformed
  | .firstName, .closeObject => .ok (complete (.object []) stack)
  | .firstName, token => reading.readName [] stack token
  | .nextName members, token => reading.readName members stack token
  | .colon members name, .colon => .ok (.expecting .value (.member members name :: stack))
  | .colon _ _, _ => .error .malformed
  | .afterMember members, .closeObject => .ok (complete (.object members.reverse) stack)
  | .afterMember members, .comma => .ok (.expecting (.nextName members) stack)
  | .afterMember _, _ => .error .malformed

/-- Reads on until the outermost value is complete. -/
def run (stack : List Frame) (expectation : Expectation) :
    List Token → Except Failure (Value × List Token)
  | [] => .error .ended
  | token :: rest =>
    match reading.step stack expectation token with
    | .error failure => .error failure
    | .ok (.finished value) => .ok (value, rest)
    | .ok (.expecting next stack') => run stack' next rest

end Reading

/-- The value at the start of the tokens, and the tokens after it. -/
def read (tokens : List Token) : Except Failure (Value × List Token) :=
  Reading.exact.run [] .value tokens

/-- The tokens after the value at their start. -/
def skip (tokens : List Token) : Except Failure (List Token) :=
  (·.2) <$> Reading.skimming.run [] .value tokens

/-- Nothing but blanks follows. -/
def finish : List Token → Except Failure Unit
  | [] => .ok ()
  | _ :: _ => .error .malformed

end Apicalypse.Json

import Apicalypse.Json.Shape
import Mathlib.Logic.Basic

/-!
# Spellings of JSON values

The grammar of JSON over tokens, and that the reader of values accepts exactly that.

* `Spelling`: a value with its literals as they are written; `Spelling.tokens` are its tokens.
* `Spelling.value?`: the value that is spelt, when all literals have a value.
* `Value.depth`: how deep lists and objects nest in a value.
* `run_tokens_eq_ok_iff`: reading passes over a spelling and goes on with its value.
* `read_eq_ok_iff`: what is read is a spelling of a value that does not nest too deep.
-/

namespace Apicalypse.Json

/-! ## Depth -/

namespace Value

mutual

/-- How deep lists and objects nest. -/
def depth : Value → Nat
  | list items => depthOfItems items + 1
  | object members => depthOfMembers members + 1
  | null | boolean _ | number _ | string _ => 0

/-- The depth of the deepest item. -/
def depthOfItems : List Value → Nat
  | [] => 0
  | item :: rest => max item.depth (depthOfItems rest)

/-- The depth of the deepest member. -/
def depthOfMembers : List (String × Value) → Nat
  | [] => 0
  | member :: rest => max (depthOfMember member) (depthOfMembers rest)

/-- The depth of a member's value. -/
def depthOfMember : String × Value → Nat
  | (_, value) => value.depth

end

end Value

/-! ## Spellings -/

/-- A value as it is written: literals by their spelling, lists and objects in their order. -/
inductive Spelling where
  | null
  | boolean (value : Bool)
  | number (literal : NumberLiteral)
  | string (literal : StringLiteral)
  | list (items : List Spelling)
  | object (members : List (StringLiteral × Spelling))

namespace Spelling

mutual

/-- The tokens of a spelling. -/
def tokens : Spelling → List Token
  | null => [.null]
  | boolean value => [.boolean value]
  | number literal => [.number literal]
  | string literal => [.string literal]
  | list [] => [.openList, .closeList]
  | list (first :: rest) => .openList :: (first.tokens ++ tokensAfterItem rest)
  | object [] => [.openObject, .closeObject]
  | object (first :: rest) => .openObject :: (memberTokens first ++ tokensAfterMember rest)

/-- The tokens after an item that more items follow, up to the end of the list. -/
def tokensAfterItem : List Spelling → List Token
  | [] => [.closeList]
  | item :: rest => .comma :: (item.tokens ++ tokensAfterItem rest)

/-- The tokens after a member that more members follow, up to the end of the object. -/
def tokensAfterMember : List (StringLiteral × Spelling) → List Token
  | [] => [.closeObject]
  | member :: rest => .comma :: (memberTokens member ++ tokensAfterMember rest)

/-- The tokens of a member. -/
def memberTokens : StringLiteral × Spelling → List Token
  | (name, value) => .string name :: .colon :: value.tokens

end

mutual

/-- The value of a spelling, when all its literals have one. -/
def value? : Spelling → Option Value
  | null => some .null
  | boolean value => some (.boolean value)
  | number literal => literal.number.toOption.map .number
  | string literal => literal.text.toOption.map .string
  | list items => (values? items).map .list
  | object members => (members? members).map .object

/-- The values of several spellings. -/
def values? : List Spelling → Option (List Value)
  | [] => some []
  | item :: rest => do
    let value ← item.value?
    return value :: (← values? rest)

/-- The members of several spellings. -/
def members? : List (StringLiteral × Spelling) → Option (List (String × Value))
  | [] => some []
  | member :: rest => do
    let value ← member? member
    return value :: (← members? rest)

/-- The name and the value of a member's spelling. -/
def member? : StringLiteral × Spelling → Option (String × Value)
  | (name, value) => do return (← name.text.toOption, ← value.value?)

end

end Spelling

/-! ## Reading a spelling -/

namespace Reading

/-- Goes on after a value, with the lists and objects that wait for it. -/
def resume (reading : Reading) (value : Value) (stack : List Frame) (rest : List Token) :
    Except Failure (Value × List Token) :=
  match complete value stack with
  | .finished value => .ok (value, rest)
  | .expecting next stack => reading.run stack next rest

theorem admits_iff (stack : List Frame) : exact.admits stack = true ↔ stack.length < maxDepth := by
  simp [admits, exact]

theorem resume_item (reading : Reading) (value : Value) (items : List Value) (stack : List Frame)
    (rest : List Token) : reading.resume value (.list items :: stack) rest =
      reading.run stack (.afterItem (value :: items)) rest := rfl

theorem resume_member (reading : Reading) (value : Value) (members : List (String × Value))
    (name : String) (stack : List Frame) (rest : List Token) :
    reading.resume value (.member members name :: stack) rest =
      reading.run stack (.afterMember ((name, value) :: members)) rest := rfl

/-- A literal that is read completes what waits for it. -/
theorem run_literal_eq_ok_iff {token : Token} {stack : List Frame} (read : Except Failure Value)
    (h : exact.startValue stack token = (complete · stack) <$> read) (rest : List Token)
    (result : Value × List Token) : exact.run stack .value (token :: rest) = .ok result ↔
      ∃ value, read.toOption = some value ∧ exact.resume value stack rest = .ok result := by
  rw [run, step, h]
  cases read with
  | error failure => simp [Functor.map, Except.map, Except.toOption]
  | ok value =>
    cases hnext : complete value stack <;>
      simp [Functor.map, Except.map, Except.toOption, resume, hnext]

/-- The first token of a spelling ends no list. -/
theorem exists_tokens_cons (spelling : Spelling) : ∃ token rest,
    spelling.tokens = token :: rest ∧ token ≠ .closeList := by
  match spelling with
  | .null | .boolean _ | .number _ | .string _ | .list [] | .list (_ :: _) | .object []
  | .object (_ :: _) => exact ⟨_, _, rfl, nofun⟩

theorem run_closeList (reading : Reading) (before : List Value) (stack : List Frame)
    (rest : List Token) : reading.run stack (.afterItem before) (.closeList :: rest) =
      reading.resume (.list before.reverse) stack rest := by
  rw [run, step]
  unfold resume
  cases complete (.list before.reverse) stack <;> rfl

theorem run_closeObject (reading : Reading) (before : List (String × Value)) (stack : List Frame)
    (rest : List Token) : reading.run stack (.afterMember before) (.closeObject :: rest) =
      reading.resume (.object before.reverse) stack rest := by
  rw [run, step]
  unfold resume
  cases complete (.object before.reverse) stack <;> rfl

theorem run_openList (reading : Reading) (stack : List Frame) (later : List Token) :
    reading.run stack .value (.openList :: later) =
      if reading.admits stack then reading.run stack .firstItem later else .error .malformed := by
  rw [run, step, startValue]
  cases reading.admits stack <;> rfl

theorem run_openObject (reading : Reading) (stack : List Frame) (later : List Token) :
    reading.run stack .value (.openObject :: later) =
      if reading.admits stack then reading.run stack .firstName later else .error .malformed := by
  rw [run, step, startValue]
  cases reading.admits stack <;> rfl

/-- The first item is read like any other, when the list does not end there. -/
theorem run_firstItem (reading : Reading) {token : Token} (h : token ≠ .closeList)
    (stack : List Frame) (later : List Token) : reading.run stack .firstItem (token :: later) =
      reading.run (.list [] :: stack) .value (token :: later) := by
  rw [run, run]
  cases token <;> first | rfl | exact absurd rfl h

/-- The first member is read like any other, when the object does not end there. -/
theorem run_firstName (reading : Reading) {token : Token} (h : token ≠ .closeObject)
    (stack : List Frame) (later : List Token) : reading.run stack .firstName (token :: later) =
      reading.run stack (.nextName []) (token :: later) := by
  rw [run, run]
  cases token <;> first | rfl | exact absurd rfl h

/-- A list is read as what follows an item of it, when it may be opened. -/
theorem run_list (reading : Reading) (items : List Spelling) (stack : List Frame)
    (rest : List Token) : reading.run stack .value ((Spelling.list items).tokens ++ rest) =
      if reading.admits stack then
        reading.run stack (.afterItem []) (Spelling.tokensAfterItem items ++ rest)
      else .error .malformed := by
  match items with
  | [] => exact run_openList _ _ _
  | first :: later =>
    obtain ⟨token, tokens, htokens, htoken⟩ := exists_tokens_cons first
    rw [Spelling.tokens, List.cons_append, run_openList, Spelling.tokensAfterItem, htokens]
    simp only [List.cons_append, run_firstItem _ htoken]
    rfl

/-- An object is read as what follows a member of it, when it may be opened. -/
theorem run_object (reading : Reading) (members : List (StringLiteral × Spelling))
    (stack : List Frame) (rest : List Token) :
    reading.run stack .value ((Spelling.object members).tokens ++ rest) =
      if reading.admits stack then
        reading.run stack (.afterMember []) (Spelling.tokensAfterMember members ++ rest)
      else .error .malformed := by
  match members with
  | [] => exact run_openObject _ _ _
  | (name, value) :: later =>
    rw [Spelling.tokens, List.cons_append, run_openObject]
    rfl

/-- The name of a member is read before its value. -/
theorem run_memberTokens_eq_ok_iff (name : StringLiteral) (value : Spelling)
    (before : List (String × Value)) (stack : List Frame) (rest : List Token)
    (result : Value × List Token) :
    exact.run stack (.nextName before) (Spelling.memberTokens (name, value) ++ rest) =
        .ok result ↔
      ∃ text, name.text.toOption = some text ∧
        exact.run (.member before text :: stack) .value (value.tokens ++ rest) = .ok result := by
  rw [Spelling.memberTokens, List.cons_append, List.cons_append, run, step, readName,
    show exact.text name = name.text from rfl]
  cases name.text with
  | error failure => simp [bind, Except.bind, Except.toOption]
  | ok text =>
    simp only [bind, Except.bind, pure, Except.pure, Except.toOption, Option.some.injEq,
      exists_eq_left']
    exact Iff.rfl

theorem depth_list_le_iff (values : List Value) (stack : List Frame) :
    (Value.list values).depth ≤ maxDepth - stack.length ↔
      exact.admits stack = true ∧ Value.depthOfItems values ≤ maxDepth - (stack.length + 1) := by
  rw [Value.depth, admits_iff]
  omega

theorem depth_object_le_iff (members : List (String × Value)) (stack : List Frame) :
    (Value.object members).depth ≤ maxDepth - stack.length ↔
      exact.admits stack = true ∧ Value.depthOfMembers members ≤ maxDepth - (stack.length + 1) := by
  rw [Value.depth, admits_iff]
  omega

mutual

/-- **Reading a spelling.** Reading passes over the tokens of a spelling and goes on with its
value, when it has one and that does not nest too deep; otherwise it fails. -/
theorem run_tokens_eq_ok_iff (spelling : Spelling) (stack : List Frame) (rest : List Token)
    (result : Value × List Token) :
    exact.run stack .value (spelling.tokens ++ rest) = .ok result ↔
      ∃ value, spelling.value? = some value ∧ value.depth ≤ maxDepth - stack.length ∧
        exact.resume value stack rest = .ok result := by
  match spelling with
  | .null =>
    rw [Spelling.tokens, List.singleton_append, run_literal_eq_ok_iff (.ok .null) rfl]
    simp [Spelling.value?, Except.toOption, Value.depth]
  | .boolean b =>
    rw [Spelling.tokens, List.singleton_append, run_literal_eq_ok_iff (.ok (.boolean b)) rfl]
    simp [Spelling.value?, Except.toOption, Value.depth]
  | .number literal =>
    have hread : exact.startValue stack (.number literal) =
        (complete · stack) <$> (.number <$> literal.number : Except Failure Value) := by
      show (do return complete (.number (← literal.number)) stack : Except Failure Progress) = _
      cases literal.number <;> rfl
    rw [Spelling.tokens, List.singleton_append, run_literal_eq_ok_iff _ hread]
    cases hliteral : literal.number <;>
      simp [Spelling.value?, hliteral, Functor.map, Except.map, Except.toOption, Value.depth]
  | .string literal =>
    have hread : exact.startValue stack (.string literal) =
        (complete · stack) <$> (.string <$> literal.text : Except Failure Value) := by
      show (do return complete (.string (← literal.text)) stack : Except Failure Progress) = _
      cases literal.text <;> rfl
    rw [Spelling.tokens, List.singleton_append, run_literal_eq_ok_iff _ hread]
    cases hliteral : literal.text <;>
      simp [Spelling.value?, hliteral, Functor.map, Except.map, Except.toOption, Value.depth]
  | .list items =>
    have hitems := run_tokensAfterItem_eq_ok_iff items [] stack rest result
    rw [run_list, Spelling.value?]
    simp only [Option.map_eq_some_iff, exists_exists_and_eq_and, depth_list_le_iff]
    cases exact.admits stack with
    | true => simpa using hitems
    | false => simp
  | .object members =>
    have hmembers := run_tokensAfterMember_eq_ok_iff members [] stack rest result
    rw [run_object, Spelling.value?]
    simp only [Option.map_eq_some_iff, exists_exists_and_eq_and, depth_object_le_iff]
    cases exact.admits stack with
    | true => simpa using hmembers
    | false => simp

/-- What follows an item is read up to the end of the list. -/
theorem run_tokensAfterItem_eq_ok_iff (items : List Spelling) (before : List Value)
    (stack : List Frame) (rest : List Token) (result : Value × List Token) :
    exact.run stack (.afterItem before) (Spelling.tokensAfterItem items ++ rest) = .ok result ↔
      ∃ values, Spelling.values? items = some values ∧
        Value.depthOfItems values ≤ maxDepth - (stack.length + 1) ∧
        exact.resume (.list (before.reverse ++ values)) stack rest = .ok result := by
  match items with
  | [] =>
    rw [Spelling.tokensAfterItem, List.singleton_append, run_closeList]
    simp [Spelling.values?, Value.depthOfItems]
  | item :: later =>
    have hitem := run_tokens_eq_ok_iff item (.list before :: stack)
      (Spelling.tokensAfterItem later ++ rest) result
    have hlater (value : Value) :=
      run_tokensAfterItem_eq_ok_iff later (value :: before) stack rest result
    rw [Spelling.tokensAfterItem, List.cons_append, List.append_assoc]
    refine hitem.trans ?_
    simp only [resume_item, hlater, Spelling.values?, Option.bind_eq_bind, Option.bind_eq_some_iff,
      Option.pure_def, Option.some.injEq, List.reverse_cons, List.append_assoc,
      List.singleton_append, List.length_cons]
    constructor
    · rintro ⟨value, hvalue, hdepth, values, hvalues, hdepths, hresume⟩
      exact ⟨value :: values, ⟨value, hvalue, values, hvalues, rfl⟩,
        Nat.max_le.mpr ⟨hdepth, hdepths⟩, hresume⟩
    · rintro ⟨_, ⟨value, hvalue, values, hvalues, rfl⟩, hdepth, hresume⟩
      obtain ⟨hdepth, hdepths⟩ := Nat.max_le.mp hdepth
      exact ⟨value, hvalue, hdepth, values, hvalues, hdepths, hresume⟩

/-- What follows a member is read up to the end of the object. -/
theorem run_tokensAfterMember_eq_ok_iff (members : List (StringLiteral × Spelling))
    (before : List (String × Value)) (stack : List Frame) (rest : List Token)
    (result : Value × List Token) :
    exact.run stack (.afterMember before) (Spelling.tokensAfterMember members ++ rest) =
        .ok result ↔
      ∃ values, Spelling.members? members = some values ∧
        Value.depthOfMembers values ≤ maxDepth - (stack.length + 1) ∧
        exact.resume (.object (before.reverse ++ values)) stack rest = .ok result := by
  match members with
  | [] =>
    rw [Spelling.tokensAfterMember, List.singleton_append, run_closeObject]
    simp [Spelling.members?, Value.depthOfMembers]
  | (name, spelling) :: later =>
    have hvalue (text : String) := run_tokens_eq_ok_iff spelling (.member before text :: stack)
      (Spelling.tokensAfterMember later ++ rest) result
    have hlater (member : String × Value) :=
      run_tokensAfterMember_eq_ok_iff later (member :: before) stack rest result
    rw [Spelling.tokensAfterMember, List.cons_append, List.append_assoc]
    refine (run_memberTokens_eq_ok_iff name spelling before stack
      (Spelling.tokensAfterMember later ++ rest) result).trans ?_
    simp only [hvalue, resume_member, hlater, Spelling.members?, Spelling.member?,
      Option.bind_eq_bind, Option.bind_eq_some_iff, Option.pure_def, Option.some.injEq,
      List.reverse_cons, List.append_assoc, List.singleton_append, List.length_cons]
    constructor
    · rintro ⟨text, htext, value, hvalue, hdepth, members, hmembers, hdepths, hresume⟩
      exact ⟨(text, value) :: members, ⟨_, ⟨text, htext, value, hvalue, rfl⟩, members, hmembers,
        rfl⟩, Nat.max_le.mpr ⟨hdepth, hdepths⟩, hresume⟩
    · rintro ⟨_, ⟨_, ⟨text, htext, value, hvalue, rfl⟩, members, hmembers, rfl⟩, hdepth, hresume⟩
      obtain ⟨hdepth, hdepths⟩ := Nat.max_le.mp hdepth
      exact ⟨text, htext, value, hvalue, hdepth, members, hmembers, hdepths, hresume⟩

end

/-! ## What is read is spelt -/

/-- Tokens that are read as a value begin with a spelling; those that are read after an item or a
member begin with the rest of a list or of an object. -/
structure Spelt (tokens : List Token) : Prop where
  value : ∀ {stack result}, exact.run stack .value tokens = .ok result →
    ∃ (spelling : Spelling) (rest : List Token), tokens = spelling.tokens ++ rest
  items : ∀ {stack before result}, exact.run stack (.afterItem before) tokens = .ok result →
    ∃ items rest, tokens = Spelling.tokensAfterItem items ++ rest
  members : ∀ {stack before result}, exact.run stack (.afterMember before) tokens = .ok result →
    ∃ members rest, tokens = Spelling.tokensAfterMember members ++ rest

section

variable {tokens : List Token} {stack : List Frame} {result : Value × List Token}

/-- The tokens of a value, when shorter lists of tokens are known to be spelt. -/
theorem exists_resume (h : Spelt tokens) (hrun : exact.run stack .value tokens = .ok result) :
    ∃ (spelling : Spelling) (value : Value) (later : List Token),
      tokens = spelling.tokens ++ later ∧ exact.resume value stack later = .ok result := by
  obtain ⟨spelling, later, rfl⟩ := h.value hrun
  obtain ⟨value, -, -, hresume⟩ := (run_tokens_eq_ok_iff spelling stack later result).mp hrun
  exact ⟨spelling, value, later, rfl, hresume⟩

theorem eq_colon_cons {before : List (String × Value)} {text : String}
    (hrun : exact.run stack (.colon before text) tokens = .ok result) : ∃ later,
      tokens = .colon :: later ∧
        exact.run (.member before text :: stack) .value later = .ok result := by
  match tokens with
  | [] => cases hrun
  | token :: later =>
    cases token
    case colon => exact ⟨later, rfl, hrun⟩
    all_goals cases hrun

theorem eq_string_cons {before : List (String × Value)}
    (hrun : exact.run stack (.nextName before) tokens = .ok result) : ∃ name text later,
      tokens = .string name :: later ∧
        exact.run stack (.colon before text) later = .ok result := by
  match tokens with
  | [] => cases hrun
  | token :: later =>
    cases token
    case string name =>
      rw [run, step, readName, show exact.text name = name.text from rfl] at hrun
      cases htext : name.text with
      | error failure =>
        rw [htext] at hrun
        cases hrun
      | ok text =>
        rw [htext] at hrun
        exact ⟨name, text, later, rfl, hrun⟩
    all_goals cases hrun

/-- A member and what follows it. -/
theorem exists_members (h : ∀ later, later.length ≤ tokens.length → Spelt later)
    {before : List (String × Value)}
    (hrun : exact.run stack (.nextName before) tokens = .ok result) :
    ∃ member members rest,
      tokens = Spelling.memberTokens member ++ (Spelling.tokensAfterMember members ++ rest) := by
  obtain ⟨name, text, _, rfl, hcolon⟩ := eq_string_cons hrun
  obtain ⟨later, rfl, hvalue⟩ := eq_colon_cons hcolon
  obtain ⟨spelling, value, later, rfl, hresume⟩ := exists_resume (h later (by simp; omega)) hvalue
  obtain ⟨members, rest, rfl⟩ := (h later (by simp; omega)).members hresume
  exact ⟨(name, spelling), members, rest, rfl⟩

/-- An item and what follows it. -/
theorem exists_items (h : ∀ later, later.length ≤ tokens.length → Spelt later)
    {before : List Value}
    (hrun : exact.run (.list before :: stack) .value tokens = .ok result) :
    ∃ item items rest,
      tokens = Spelling.tokens item ++ (Spelling.tokensAfterItem items ++ rest) := by
  obtain ⟨item, value, later, rfl, hresume⟩ := exists_resume (h tokens (by simp)) hrun
  obtain ⟨items, rest, rfl⟩ := (h later (by simp)).items hresume
  exact ⟨item, items, rest, rfl⟩

/-- The items of a list up to its end. -/
theorem exists_list (h : ∀ later, later.length ≤ tokens.length → Spelt later)
    (hrun : exact.run stack .firstItem tokens = .ok result) : ∃ items rest,
      .openList :: tokens = (Spelling.list items).tokens ++ rest := by
  match tokens with
  | [] => cases hrun
  | token :: later =>
    by_cases hclose : token = .closeList
    · exact ⟨[], later, by rw [hclose]; rfl⟩
    · rw [run_firstItem _ hclose] at hrun
      obtain ⟨item, items, rest, hitems⟩ := exists_items h hrun
      exact ⟨item :: items, rest, by simp [hitems, Spelling.tokens]⟩

/-- The members of an object up to its end. -/
theorem exists_object (h : ∀ later, later.length ≤ tokens.length → Spelt later)
    (hrun : exact.run stack .firstName tokens = .ok result) : ∃ members rest,
      .openObject :: tokens = (Spelling.object members).tokens ++ rest := by
  match tokens with
  | [] => cases hrun
  | token :: later =>
    by_cases hclose : token = .closeObject
    · exact ⟨[], later, by rw [hclose]; rfl⟩
    · rw [run_firstName _ hclose] at hrun
      obtain ⟨member, members, rest, hmembers⟩ := exists_members h hrun
      exact ⟨member :: members, rest, by simp [hmembers, Spelling.tokens]⟩

end

/-- What the reader accepts is spelt. -/
theorem spelt (tokens : List Token) : Spelt tokens := by
  -- After one token the reader may be inside a value, so the three kinds of rest go together.
  have ih (later : List Token) (h : later.length < tokens.length) : Spelt later := spelt later
  match tokens with
  | [] => exact ⟨nofun, nofun, nofun⟩
  | token :: later =>
    have ih' (later' : List Token) (h : later'.length ≤ later.length) : Spelt later' :=
      ih later' (Nat.lt_succ_of_le h)
    constructor
    · intro stack result hrun
      cases token
      case null => exact ⟨.null, later, rfl⟩
      case boolean value => exact ⟨.boolean value, later, rfl⟩
      case number literal => exact ⟨.number literal, later, rfl⟩
      case string literal => exact ⟨.string literal, later, rfl⟩
      case openList =>
        rw [run_openList] at hrun
        split at hrun
        case isTrue =>
          obtain ⟨items, rest, h⟩ := exists_list ih' hrun
          exact ⟨.list items, rest, h⟩
        case isFalse => cases hrun
      case openObject =>
        rw [run_openObject] at hrun
        split at hrun
        case isTrue =>
          obtain ⟨members, rest, h⟩ := exists_object ih' hrun
          exact ⟨.object members, rest, h⟩
        case isFalse => cases hrun
      all_goals cases hrun
    · intro stack before result hrun
      cases token
      case comma =>
        obtain ⟨item, items, rest, rfl⟩ := exists_items ih' hrun
        exact ⟨item :: items, rest, by simp [Spelling.tokensAfterItem]⟩
      case closeList => exact ⟨[], later, rfl⟩
      all_goals cases hrun
    · intro stack before result hrun
      cases token
      case comma =>
        obtain ⟨member, members, rest, rfl⟩ := exists_members ih' hrun
        exact ⟨member :: members, rest, by simp [Spelling.tokensAfterMember]⟩
      case closeObject => exact ⟨[], later, rfl⟩
      all_goals cases hrun
termination_by tokens.length

end Reading

theorem read_tokens_eq_ok_iff (spelling : Spelling) (later : List Token) (value : Value)
    (rest : List Token) : read (spelling.tokens ++ later) = .ok (value, rest) ↔
      spelling.value? = some value ∧ value.depth ≤ Reading.maxDepth ∧ later = rest := by
  rw [read, Reading.run_tokens_eq_ok_iff]
  constructor
  · rintro ⟨value', hvalue, hdepth, hresume⟩
    obtain ⟨rfl, rfl⟩ := Prod.mk.inj (Except.ok.inj hresume)
    exact ⟨hvalue, hdepth, rfl⟩
  · rintro ⟨hvalue, hdepth, rfl⟩
    exact ⟨value, hvalue, hdepth, rfl⟩

/-- **The reader and the grammar.** What is read from the start of some tokens is a value that is
spelt there and does not nest too deep. -/
theorem read_eq_ok_iff (tokens : List Token) (value : Value) (rest : List Token) :
    read tokens = .ok (value, rest) ↔ ∃ spelling : Spelling,
      tokens = spelling.tokens ++ rest ∧ spelling.value? = some value ∧
        value.depth ≤ Reading.maxDepth := by
  constructor
  · intro h
    obtain ⟨spelling, later, rfl⟩ := (Reading.spelt tokens).value h
    obtain ⟨hvalue, hdepth, rfl⟩ := (read_tokens_eq_ok_iff spelling later value rest).mp h
    exact ⟨spelling, rfl, hvalue, hdepth⟩
  · rintro ⟨spelling, rfl, hvalue, hdepth⟩
    exact (read_tokens_eq_ok_iff spelling rest value rest).mpr ⟨hvalue, hdepth, rfl⟩

end Apicalypse.Json

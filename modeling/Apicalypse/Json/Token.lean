import Apicalypse.Json.Failure
import Apicalypse.Text.Hexadecimal

/-!
# Tokens of JSON

A JSON text as a list of tokens without the blanks between them. Literals keep their spelling;
what they mean is decided by the reader. A token that breaks off is the last one of its list and
says how reading it fails.

* `Token`: punctuation, words, and the literals of numbers and strings.
* `Scanner.run`: the tokens of a text, by a machine that takes one character at a time.
* `tokens`: the same from the start of a text.
-/

namespace Apicalypse.Json

/-! ## Literals -/

/-- The spelling of a number. -/
structure NumberLiteral where
  negative : Bool
  /-- The digits before the point. -/
  whole : List Char
  /-- The digits after the point, if there is one. -/
  fraction : Option (List Char)
  /-- The sign and the digits of the power of ten, if there is one. -/
  exponent : Option (Bool × List Char)
  deriving DecidableEq, Repr

/-- A part of the spelling of a string. -/
inductive Piece where
  /-- A character that stands for itself or has a short escape. -/
  | char (c : Char)
  /-- A unit of UTF-16, escaped by its number. -/
  | unit (code : Nat)
  deriving DecidableEq, Repr

/-- The spelling of a string. One that is not closed by a quote says how reading it fails. -/
structure StringLiteral where
  pieces : List Piece
  broken : Option Failure
  deriving DecidableEq, Repr

/-- A token of a JSON text. -/
inductive Token where
  | openList
  | closeList
  | openObject
  | closeObject
  | comma
  | colon
  | null
  | boolean (value : Bool)
  | number (literal : NumberLiteral)
  | string (literal : StringLiteral)
  /-- A word that is cut off or misspelt. -/
  | brokenWord (failure : Failure)
  /-- A number that is cut off or misspelt. -/
  | brokenNumber (failure : Failure)
  /-- A character that starts no token. -/
  | stray
  deriving DecidableEq, Repr

/-! ## The scanner -/

/-- A blank between tokens. -/
def isBlank (c : Char) : Bool := c = ' ' || c = '\n' || c = '\t' || c = '\r'

/-- The character that a letter after a backslash stands for. -/
def shortEscape? : Char → Option Char
  | '"' => some '"'
  | '\\' => some '\\'
  | '/' => some '/'
  | 'b' => some '\x08'
  | 'f' => some '\x0c'
  | 'n' => some '\n'
  | 'r' => some '\r'
  | 't' => some '\t'
  | _ => none

namespace Scanner

/-- How far the spelling of a number has come. Digits are kept in reverse until their part is
complete. -/
inductive NumberPart where
  /-- After the minus sign. -/
  | sign
  /-- In the digits before the point. -/
  | whole (digits : List Char)
  /-- In the digits after the point; there may be none yet. -/
  | fraction (integer digits : List Char)
  /-- After the letter of the exponent. -/
  | mark (integer : List Char) (decimals : Option (List Char))
  /-- In the digits of the exponent; there may be none yet. -/
  | exponent (integer : List Char) (decimals : Option (List Char)) (down : Bool)
      (digits : List Char)
  deriving DecidableEq, Repr

/-- What the scanner is in the middle of. -/
inductive State where
  | between
  /-- In a word, before these letters. -/
  | word (rest : List Char) (token : Token)
  | number (negative : Bool) (part : NumberPart)
  /-- In a string, after these pieces in reverse. -/
  | string (pieces : List Piece)
  /-- In a string, after a backslash. -/
  | escape (pieces : List Piece)
  /-- In a string, before so many hexadecimal digits of a unit. -/
  | unit (pieces : List Piece) (value : Nat) (left : Nat)
  deriving DecidableEq, Repr

/-- The literal of the spelling so far, when the number may end here. -/
def NumberPart.finish? (negative : Bool) : NumberPart → Option NumberLiteral
  | .sign => none
  | .whole digits => some ⟨negative, digits.reverse, none, none⟩
  | .fraction _ [] => none
  | .fraction integer digits => some ⟨negative, integer, some digits.reverse, none⟩
  | .mark .. => none
  | .exponent _ _ _ [] => none
  | .exponent integer decimals down digits =>
    some ⟨negative, integer, decimals, some (down, digits.reverse)⟩

/-- The spelling with one more character, when it can go on with that. No digit follows a leading
zero. -/
def NumberPart.extend? (c : Char) : NumberPart → Option NumberPart
  | .sign => if c.isDigit then some (.whole [c]) else none
  | .whole digits =>
    if c.isDigit then (if digits = ['0'] then none else some (.whole (c :: digits)))
    else if c = '.' then some (.fraction digits.reverse [])
    else if c = 'e' ∨ c = 'E' then some (.mark digits.reverse none)
    else none
  | .fraction integer digits =>
    if c.isDigit then some (.fraction integer (c :: digits))
    else if (c = 'e' ∨ c = 'E') ∧ digits ≠ [] then some (.mark integer (some digits.reverse))
    else none
  | .mark integer decimals =>
    if c.isDigit then some (.exponent integer decimals false [c])
    else if c = '+' then some (.exponent integer decimals false [])
    else if c = '-' then some (.exponent integer decimals true [])
    else none
  | .exponent integer decimals down digits =>
    if c.isDigit then some (.exponent integer decimals down (c :: digits)) else none

/-- A string that breaks off after these pieces in reverse. -/
def cut (pieces : List Piece) (failure : Failure) : Token :=
  .string ⟨pieces.reverse, some failure⟩

/-- What a character starts between two tokens: a token, a state, or nothing when it is blank. -/
inductive Start where
  | token (token : Token)
  | state (state : State)
  | blank
  deriving DecidableEq, Repr

/-- What a character starts between two tokens. -/
def start (c : Char) : Start :=
  match c with
  | '[' => .token .openList
  | ']' => .token .closeList
  | '\x7b' => .token .openObject
  | '\x7d' => .token .closeObject
  | ',' => .token .comma
  | ':' => .token .colon
  | 'n' => .state (.word ['u', 'l', 'l'] .null)
  | 't' => .state (.word ['r', 'u', 'e'] (.boolean true))
  | 'f' => .state (.word ['a', 'l', 's', 'e'] (.boolean false))
  | '"' => .state (.string [])
  | '-' => .state (.number true .sign)
  | c =>
    if c.isDigit then .state (.number false (.whole [c]))
    else if isBlank c then .blank
    else .token .stray

/-- The tokens of the rest of a text. -/
def run : State → List Char → List Token
  | .between, [] => []
  | .word _ _, [] => [.brokenWord .ended]
  | .number negative part, [] =>
    match part.finish? negative with
    | some literal => [.number literal]
    | none => [.brokenNumber .ended]
  | .string pieces, [] | .escape pieces, [] | .unit pieces _ _, [] => [cut pieces .ended]
  | .between, c :: rest =>
    match start c with
    | .token .stray => [.stray]
    | .token token => token :: run .between rest
    | .state state => run state rest
    | .blank => run .between rest
  | .word [] _, _ :: _ => [.brokenWord .malformed]
  | .word [last] token, c :: rest =>
    if c = last then token :: run .between rest else [.brokenWord .malformed]
  | .word (next :: letters) token, c :: rest =>
    if c = next then run (.word letters token) rest else [.brokenWord .malformed]
  | .number negative part, c :: rest =>
    match part.extend? c with
    | some longer => run (.number negative longer) rest
    | none =>
      match part.finish? negative with
      | none => [.brokenNumber .malformed]
      | some literal =>
        if c.isDigit then [.brokenNumber .malformed]
        else match start c with
          | .token .stray => [.number literal, .stray]
          | .token token => .number literal :: token :: run .between rest
          | .state state => .number literal :: run state rest
          | .blank => .number literal :: run .between rest
  | .string pieces, c :: rest =>
    if c = '"' then .string ⟨pieces.reverse, none⟩ :: run .between rest
    else if c = '\\' then run (.escape pieces) rest
    else if c < ' ' then [cut pieces .malformed]
    else run (.string (.char c :: pieces)) rest
  | .escape pieces, c :: rest =>
    match shortEscape? c with
    | some meant => run (.string (.char meant :: pieces)) rest
    | none =>
      if c ≠ 'u' then [cut pieces .malformed]
      else if (String.ofList rest).utf8ByteSize < 4 then [cut pieces .ended]
      else run (.unit pieces 0 4) rest
  | .unit pieces value left, c :: rest =>
    match Text.hexValue? c with
    | none => [cut pieces .malformed]
    | some digit =>
      if left ≤ 1 then run (.string (.unit (16 * value + digit) :: pieces)) rest
      else run (.unit pieces (16 * value + digit) (left - 1)) rest

end Scanner

/-- The tokens of a text. -/
def tokens (text : List Char) : List Token := Scanner.run .between text

end Apicalypse.Json

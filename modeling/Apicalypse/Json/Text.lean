import Apicalypse.Json.Token

/-!
# Strings of JSON

* `StringLiteral.text`: the text of a string literal. Characters beyond `U+FFFF` may be escaped
  as two units of UTF-16; half of such a pair alone is refused.
* `encode`: a text between quotes, with the escapes that JSON asks for and no others.
-/

namespace Apicalypse.Json

/-! ## Reading -/

/-- The first unit of a pair. -/
def isHighUnit (code : Nat) : Bool := 0xD800 ≤ code && code ≤ 0xDBFF

/-- The second unit of a pair. -/
def isLowUnit (code : Nat) : Bool := 0xDC00 ≤ code && code ≤ 0xDFFF

/-- The character that a pair of units stands for. -/
def pairedChar (high low : Nat) : Char :=
  Char.ofNat (0x10000 + (high - 0xD800) * 0x400 + (low - 0xDC00))

/-- The characters of the pieces of a string. The first fault from the left counts, be it a lone
half of a pair or the place where the string breaks off. -/
def decode (broken : Option Failure) : List Piece → Except Failure (List Char)
  | [] => match broken with
    | none => .ok []
    | some failure => .error failure
  | .char c :: rest => (c :: ·) <$> decode broken rest
  | .unit code :: rest =>
    if isLowUnit code then .error .malformed
    else if isHighUnit code then
      match rest with
      | [] => .error (broken.getD .malformed)
      | .unit low :: rest' =>
        if isLowUnit low then (pairedChar code low :: ·) <$> decode broken rest'
        else .error .malformed
      | .char _ :: _ => .error .malformed
    else (Char.ofNat code :: ·) <$> decode broken rest

namespace StringLiteral

/-- The text of a string literal. -/
def text (literal : StringLiteral) : Except Failure String :=
  String.ofList <$> decode literal.broken literal.pieces

end StringLiteral

/-! ## Writing -/

/-- A lower case hexadecimal digit. -/
def hexDigit (n : Nat) : Char := if n < 10 then Char.ofNat ('0'.toNat + n) else Char.ofNat (87 + n)

/-- A character as it stands in a string. -/
def encodeChar (c : Char) : List Char :=
  if c = '"' then ['\\', '"']
  else if c = '\\' then ['\\', '\\']
  else if c = '\n' then ['\\', 'n']
  else if c = '\r' then ['\\', 'r']
  else if c = '\t' then ['\\', 't']
  else if c = '\x08' then ['\\', 'b']
  else if c = '\x0c' then ['\\', 'f']
  else if c < ' ' then ['\\', 'u', '0', '0', hexDigit (c.toNat / 16), hexDigit (c.toNat % 16)]
  else [c]

/-- A text between quotes. -/
def encode (text : List Char) : List Char := '"' :: (text.flatMap encodeChar ++ ['"'])

end Apicalypse.Json

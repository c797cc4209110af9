/-!
# Decimal numerals

* `decimal`: the canonical numeral of an integer.
* `readWord`: the number below `2^64` that a numeral writes. One `+` may precede the digits and
  zeros may lead them; the first fault from the left is the one reported.
-/

namespace Apicalypse.Text

/-! ## Writing -/

/-- The digits of a natural number, without leading zeros. -/
def digits (n : Nat) : List Char := Nat.toDigits 10 n

/-- The numeral of an integer: `-` before a negative one and nothing before the others. -/
def decimal : Int → String
  | .ofNat n => String.ofList (digits n)
  | .negSucc n => String.ofList ('-' :: digits (n + 1))

/-! ## Reading -/

/-- What an ASCII digit counts. -/
def digitValue? (c : Char) : Option Nat :=
  if c.isDigit then some (c.toNat - '0'.toNat) else none

/-- Why a text is no numeral of a number below `2^64`. -/
inductive NumeralError where
  | empty
  | invalidDigit
  | tooLarge
  deriving DecidableEq, Repr

namespace NumeralError

/-- The fault in words. -/
def message : NumeralError → String
  | empty => "cannot parse integer from empty string"
  | invalidDigit => "invalid digit found in string"
  | tooLarge => "number too large to fit in target type"

end NumeralError

/-- Reads on from the value of the digits so far. -/
def readDigits (value : Nat) : List Char → Except NumeralError Nat
  | [] => .ok value
  | c :: rest =>
    match digitValue? c with
    | none => .error .invalidDigit
    | some d =>
      if 10 * value + d < UInt64.size then readDigits (10 * value + d) rest else .error .tooLarge

/-- The number that a text of digits writes, with an optional `+` in front. -/
def readNumeral : List Char → Except NumeralError Nat
  | [] => .error .empty
  | ['+'] => .error .invalidDigit
  | '+' :: rest => readDigits 0 rest
  | cs => readDigits 0 cs

/-- The 64-bit number that a text writes. -/
def readWord (s : String) : Except NumeralError UInt64 :=
  (readNumeral s.toList).map UInt64.ofNat

end Apicalypse.Text

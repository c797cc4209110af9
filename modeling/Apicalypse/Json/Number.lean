import Apicalypse.FloatingPoint.Layout
import Apicalypse.Json.Token
import Apicalypse.Text.Decimal

/-!
# Numbers of JSON

A number is an integer when its literal has neither a point nor an exponent and lies between
`-2^63` and `2^64 - 1`; otherwise, and for `-0`, it is a 64-bit floating-point number.

* `NumberLiteral.number`: the number of a literal. The digits are gathered into a 64-bit
  significand, which is then scaled by a rounded power of ten; a result beyond the largest
  floating-point number is refused.
* `Number.text`: the text of a number, the shortest that reads as the same number.
-/

namespace Apicalypse.Json

open FloatingPoint (Format Magnitude Layout)

/-- A number of a JSON text. -/
inductive Number where
  | integer (value : Int)
  | float (negative : Bool) (magnitude : Magnitude)
  deriving DecidableEq, Repr

namespace Number

/-- The text of a number. -/
def text : Number → String
  | integer value => Text.decimal value
  | float negative magnitude => Layout.scientific.text .double (.finite negative magnitude)

end Number

/-! ## Scaling by a power of ten -/

/-- The greatest power of ten that scales a number in one step. -/
def maxPower : Nat := 308

/-- The floating-point number nearest to a power of ten up to `10 ^ maxPower`. -/
def powerOfTen (n : Nat) : Magnitude :=
  (Format.double.ofNat? (Nat.pow 10 n)).getD ⟨0, Format.double.minExponent⟩

/-- A number divided by `10 ^ n`, in steps of at most `10 ^ maxPower`. -/
def scaleDown (m : Magnitude) (n : Nat) : Option Magnitude :=
  if n ≤ maxPower then Format.double.div? m (powerOfTen n)
  else if m.significand = 0 then some m
  else do scaleDown (← Format.double.div? m (powerOfTen maxPower)) (n - maxPower)
termination_by n
decreasing_by simp [maxPower] at *; omega

/-- A number times `10 ^ exponent`, or nothing when that is too large. -/
def scale? (m : Magnitude) (exponent : Int) : Option Magnitude :=
  match exponent with
  | .negSucc n => scaleDown m (n + 1)
  | .ofNat n =>
    if n ≤ maxPower then Format.double.mul? m (powerOfTen n)
    else if m.significand = 0 then some m
    else none

/-! ## The number of a literal -/

/-- Digits taken after a value as long as it stays below `2^64`, and how many are left. -/
def gather (value : Nat) : List Char → Nat × Nat
  | [] => (value, 0)
  | c :: rest =>
    let next := 10 * value + (c.toNat - '0'.toNat)
    if next < UInt64.size then gather next rest else (value, rest.length + 1)

/-- The value of digits, however large. -/
def digitsValue (digits : List Char) : Nat :=
  digits.foldl (fun value c => 10 * value + (c.toNat - '0'.toNat)) 0

namespace NumberLiteral

/-- The power of ten that is written. -/
def writtenExponent (literal : NumberLiteral) : Int :=
  match literal.exponent with
  | none => 0
  | some (down, digits) => if down then -digitsValue digits else digitsValue digits

/-- The floating-point number of a literal. Digits before the point that no longer fit count as
tens; digits after the point that no longer fit do not count. -/
def float (literal : NumberLiteral) : Except Failure Number :=
  let (whole, tens) := gather 0 literal.whole
  let decimals := literal.fraction.getD []
  let (significand, rest) := gather whole decimals
  let exponent := tens - (decimals.length - rest : Nat) + literal.writtenExponent
  match (Format.double.ofNat? significand).bind (scale? · exponent) with
  | some magnitude => .ok (.float literal.negative magnitude)
  | none => .error .malformed

/-- The integer of a literal without a point and an exponent, when it is small enough. -/
def integer? (literal : NumberLiteral) : Option Int :=
  if literal.fraction.isSome || literal.exponent.isSome then none
  else
    let (whole, tens) := gather 0 literal.whole
    if tens ≠ 0 then none
    else if !literal.negative then some whole
    else if 0 < whole ∧ whole ≤ 9223372036854775808 then some (-whole)
    else none

/-- The number of a literal. -/
def number (literal : NumberLiteral) : Except Failure Number :=
  match literal.integer? with
  | some value => .ok (.integer value)
  | none => literal.float

end NumberLiteral

end Apicalypse.Json

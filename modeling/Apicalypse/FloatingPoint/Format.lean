/-!
# Binary floating-point numbers

Numbers `significand * 2 ^ exponent` of a bounded precision, as exact integers.

* `Format`: the precision and the exponent range; `Format.double` and `Format.single` are the two
  interchange formats in use.
* `Value`: a finite number, an infinity or no number, and `Value.ofBits`, which reads one.
* `Format.roundRatio?`: the number nearest to a quotient, halves going to the even significand;
  nothing when the quotient is beyond the largest number.
-/

namespace Apicalypse.FloatingPoint

/-- A binary interchange format. -/
structure Format where
  /-- Significant bits of a normal number. -/
  precision : Nat
  /-- Bits that encode the exponent. -/
  exponentBits : Nat
  deriving DecidableEq, Repr

namespace Format

/-- Numbers of 64 bits. -/
def double : Format := ⟨53, 11⟩

/-- Numbers of 32 bits. -/
def single : Format := ⟨24, 8⟩

/-- Half of the number of encoded exponents. -/
def halfRange (fmt : Format) : Nat := Nat.pow 2 (fmt.exponentBits - 1)

/-- The exponent of the smallest numbers. -/
def minExponent (fmt : Format) : Int := 3 - fmt.halfRange - fmt.precision

/-- The exponent of the largest numbers. -/
def maxExponent (fmt : Format) : Int := fmt.halfRange - fmt.precision

/-- The least significand of a normal number. -/
def leadingBit (fmt : Format) : Nat := Nat.pow 2 (fmt.precision - 1)

/-- What all significands are below. -/
def significandBound (fmt : Format) : Nat := Nat.pow 2 fmt.precision

end Format

/-- A magnitude `significand * 2 ^ exponent`. -/
structure Magnitude where
  significand : Nat
  exponent : Int
  deriving DecidableEq, Repr

/-- A floating-point number. Zero has a sign too. -/
inductive Value where
  | finite (negative : Bool) (magnitude : Magnitude)
  | infinity (negative : Bool)
  | notANumber
  deriving DecidableEq, Repr

namespace Value

/-- The number that a bit pattern encodes: a sign, a biased exponent and the significand without
its leading bit. The largest exponent stands for the infinities and for what is no number, the
smallest for numbers that have no leading bit. -/
def ofBits (fmt : Format) (bits : Nat) : Value :=
  let fraction := bits % fmt.leadingBit
  let encoded := bits / fmt.leadingBit
  let biased := encoded % (2 * fmt.halfRange)
  let negative := encoded / (2 * fmt.halfRange) % 2 == 1
  if biased = 2 * fmt.halfRange - 1 then
    if fraction = 0 then infinity negative else notANumber
  else if biased = 0 then finite negative ⟨fraction, fmt.minExponent⟩
  else finite negative ⟨fmt.leadingBit + fraction, fmt.minExponent + (biased - 1)⟩

end Value

/-! ## Rounding -/

/-- The quotient rounded to an integer, halves going to the even one. -/
def roundQuotient (num den : Nat) : Nat :=
  let q := num / den
  let twice := 2 * (num % den)
  if twice < den then q
  else if den < twice then q + 1
  else if q % 2 = 0 then q else q + 1

/-- The quotient of two numbers in units of `2 ^ exponent`, as a fraction. -/
def inUnits (num den : Nat) (exponent : Int) : Nat × Nat :=
  (num * Nat.pow 2 (-exponent).toNat, den * Nat.pow 2 exponent.toNat)

namespace Format

/-- The exponent at which a quotient is rounded: the one that leaves `precision` bits before the
point, or the least exponent when the quotient is too small for that. -/
def exponentOf (fmt : Format) (num den : Nat) : Int :=
  let low := max ((num.log2 : Int) - den.log2 - fmt.precision) fmt.minExponent
  let (n, d) := inUnits num den low
  if n < d * fmt.significandBound then low else low + 1

/-- The number nearest to a quotient of natural numbers. -/
def roundRatio? (fmt : Format) (num den : Nat) : Option Magnitude :=
  if num = 0 then some ⟨0, fmt.minExponent⟩
  else
    let exponent := fmt.exponentOf num den
    let (n, d) := inUnits num den exponent
    let rounded := roundQuotient n d
    let result : Magnitude :=
      if rounded = fmt.significandBound then ⟨fmt.leadingBit, exponent + 1⟩
      else ⟨rounded, exponent⟩
    if result.exponent ≤ fmt.maxExponent then some result else none

/-- The number nearest to a natural number. -/
def ofNat? (fmt : Format) (n : Nat) : Option Magnitude := fmt.roundRatio? n 1

/-- The product of two numbers, rounded once. -/
def mul? (fmt : Format) (a b : Magnitude) : Option Magnitude :=
  let exponent := a.exponent + b.exponent
  fmt.roundRatio? (a.significand * b.significand * Nat.pow 2 exponent.toNat)
    (Nat.pow 2 (-exponent).toNat)

/-- The quotient of two numbers, rounded once. -/
def div? (fmt : Format) (a b : Magnitude) : Option Magnitude :=
  let exponent := a.exponent - b.exponent
  fmt.roundRatio? (a.significand * Nat.pow 2 exponent.toNat)
    (b.significand * Nat.pow 2 (-exponent).toNat)

end Format

end Apicalypse.FloatingPoint

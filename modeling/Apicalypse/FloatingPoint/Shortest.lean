import Apicalypse.FloatingPoint.Format

/-!
# Shortest decimals

The decimal with the fewest digits among those that round to a given floating-point number; of
several, the one nearest to the number. All reals between the midpoints to the two neighbours
round to the number, the midpoints themselves only when its significand is even.

The search runs over the decimal grids `10 ^ j`, the coarsest first. If a point of a grid rounds
to the number, then so does one of the number's two neighbours on that grid, so it is enough to
test these two.
-/

namespace Apicalypse.FloatingPoint

/-- A decimal `digits * 10 ^ exponent`. -/
structure Decimal where
  digits : Nat
  exponent : Int
  deriving DecidableEq, Repr

/-- What becomes of two equally near decimals. -/
inductive Tie where
  | up
  | even
  deriving DecidableEq, Repr

/-- A number and the interval around it that rounds to it, in quarters of a decimal unit. -/
structure RoundingInterval where
  lower : Nat
  number : Nat
  upper : Nat
  /-- The ends belong to the interval. -/
  closed : Bool
  deriving DecidableEq, Repr

namespace RoundingInterval

/-- The point rounds to the number. -/
def contains (r : RoundingInterval) (point : Nat) : Bool :=
  if r.closed then r.lower ≤ point && point ≤ r.upper else r.lower < point && point < r.upper

/-- The nearer of the two multiples of `step` around the number that lie in the interval. -/
def onGrid? (r : RoundingInterval) (tie : Tie) (step : Nat) : Option Nat :=
  let below := r.number / step
  let above := if r.number % step = 0 then below else below + 1
  match r.contains (below * step), r.contains (above * step) with
  | false, false => none
  | true, false => some below
  | false, true => some above
  | true, true =>
    let down := r.number - below * step
    let up := above * step - r.number
    if down < up then some below
    else if up < down then some above
    else match tie with
      | .up => some above
      | .even => if below % 2 = 0 then some below else some above

/-- The first grid with a point in the interval, from `10 ^ j` down to `1`: the multiple and the
power of ten. -/
def search (r : RoundingInterval) (tie : Tie) : Nat → Nat × Nat
  | 0 => ((r.onGrid? tie 4).getD (r.number / 4), 0)
  | j + 1 =>
    match r.onGrid? tie (4 * Nat.pow 10 (j + 1)) with
    | some multiple => (multiple, j + 1)
    | none => r.search tie j

end RoundingInterval

namespace Magnitude

/-- How many decimal places the exact value has. -/
def places (m : Magnitude) : Nat := (-m.exponent).toNat

/-- The rounding interval of a number other than zero, in quarters of `10 ^ -places`. The gap below
a power of two is half the gap above it, except at the least exponent. -/
def interval (fmt : Format) (m : Magnitude) : RoundingInterval :=
  let gap := if 0 ≤ m.exponent then Nat.pow 2 m.exponent.toNat else Nat.pow 5 m.places
  let number := 4 * (m.significand * gap)
  let narrow := m.significand = fmt.leadingBit ∧ fmt.minExponent < m.exponent
  ⟨number - (if narrow then gap else 2 * gap), number, number + 2 * gap, m.significand % 2 == 0⟩

/-- The shortest decimal of a number. -/
def shortest (fmt : Format) (tie : Tie) (m : Magnitude) : Decimal :=
  if m.significand = 0 then ⟨0, 0⟩
  else
    let r := m.interval fmt
    let (digits, power) := r.search tie (Nat.toDigits 10 r.number).length
    ⟨digits, power - m.places⟩

end Magnitude

end Apicalypse.FloatingPoint

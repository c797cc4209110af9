import Apicalypse.FloatingPoint.Shortest
import Apicalypse.Text.Decimal

/-!
# Layouts of decimals

How the shortest decimal of a floating-point number is written: with a point in its place, or
with one digit before the point and a power of ten.

* `Layout.plain`: always positional and without a point in whole numbers.
* `Layout.scientific`: positional between `0.00001` and `10 ^ 16`, with at least one decimal,
  otherwise with an exponent that always has a sign.
-/

namespace Apicalypse.FloatingPoint

/-- The decisions of a way to write numbers. -/
structure Layout where
  tie : Tie
  /-- The places of the point, counted from the first digit, at which no exponent is used. -/
  positional : Int → Bool
  /-- What follows the digits of a whole number. -/
  wholeSuffix : String

namespace Layout

/-- Every digit is written and no exponent. -/
def plain : Layout := ⟨.up, fun _ => true, ""⟩

/-- Very large and very small numbers get an exponent. -/
def scientific : Layout := ⟨.even, fun place => -4 ≤ place && place ≤ 16, ".0"⟩

/-- A zero for each place. -/
def zeros (n : Nat) : String := String.ofList (List.replicate n '0')

/-- The digits with the point after the given place. -/
def positionalText (layout : Layout) (digits : List Char) (place : Int) : String :=
  if place ≤ 0 then "0." ++ zeros (-place).toNat ++ String.ofList digits
  else if digits.length ≤ place then
    String.ofList digits ++ zeros (place.toNat - digits.length) ++ layout.wholeSuffix
  else
    String.ofList (digits.take place.toNat) ++ "." ++ String.ofList (digits.drop place.toNat)

/-- The digits with the point after the first of them, and the power of ten. -/
def exponentText (digits : List Char) (place : Int) : String :=
  let power := place - 1
  let mantissa := match digits with
    | [] => "0"
    | [d] => String.ofList [d]
    | d :: rest => String.ofList (d :: '.' :: rest)
  mantissa ++ "e" ++ (if power < 0 then "" else "+") ++ Text.decimal power

/-- The text of a decimal. -/
def decimalText (layout : Layout) (d : Decimal) : String :=
  if d.digits = 0 then "0" ++ layout.wholeSuffix
  else
    let digits := Text.digits d.digits
    let place := digits.length + d.exponent
    if layout.positional place then layout.positionalText digits place
    else exponentText digits place

/-- The text of a number of a format. -/
def text (layout : Layout) (fmt : Format) : Value → String
  | .finite negative m =>
    (if negative then "-" else "") ++ layout.decimalText (m.shortest fmt layout.tie)
  | .infinity negative => if negative then "-inf" else "inf"
  | .notANumber => "NaN"

end Layout

end Apicalypse.FloatingPoint

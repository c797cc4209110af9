import Apicalypse.Catalogue.Category
import Apicalypse.Catalogue.Region
import Apicalypse.FloatingPoint.Layout
import Apicalypse.Text.Split

/-!
# Comparands

The values that a filter compares a field with, and their texts. A text is taken verbatim: nothing
is quoted or escaped.

* `Comparand.render`: the text of a value. Integers are decimal, floating-point numbers are
  positional, an instant is its Unix time in seconds, and a missing value is `null`.
* `Comparand.isNumeric`: the values that have an order; `NumericComparand` bundles them.
-/

namespace Apicalypse

/-! ## Integer types -/

/-- The widths of integers. -/
inductive IntegerWidth where
  | w8
  | w16
  | w32
  | w64
  | w128
  /-- The width of an address, 64 bits. -/
  | address
  deriving DecidableEq, Repr

namespace IntegerWidth

/-- How many bits there are. -/
def bits : IntegerWidth → Nat
  | w8 => 8
  | w16 => 16
  | w32 => 32
  | w64 => 64
  | w128 => 128
  | address => 64

end IntegerWidth

/-- The twelve types of integers. -/
structure IntegerType where
  signed : Bool
  width : IntegerWidth
  deriving DecidableEq, Repr

namespace IntegerType

/-- The least integer of a type. -/
def least (t : IntegerType) : Int := 
  if t.signed then -(Nat.pow 2 (t.width.bits - 1) : Nat) else 0

/-- The greatest integer of a type. -/
def greatest (t : IntegerType) : Int :=
  if t.signed then (Nat.pow 2 (t.width.bits - 1) : Nat) - 1 else (Nat.pow 2 t.width.bits : Nat) - 1

/-- The integer belongs to the type. -/
def Holds (t : IntegerType) (n : Int) : Prop := t.least ≤ n ∧ n ≤ t.greatest

instance (t : IntegerType) (n : Int) : Decidable (t.Holds n) :=
  inferInstanceAs (Decidable (_ ∧ _))

end IntegerType

/-! ## Comparands -/

/-- A value that a field is compared with. -/
inductive Comparand where
  | integer (type : IntegerType) (value : Int) (holds : type.Holds value)
  | double (bits : UInt64)
  | single (bits : UInt32)
  /-- A point in time, by whole seconds since 1970 and the nanoseconds after them. -/
  | instant (seconds : Int) (nanoseconds : Nat)
  | boolean (value : Bool)
  | text (content : String)
  | category (category : Category)
  | region (region : Region)
  | absent
  /-- An optional value that is there. -/
  | present (value : Comparand)
  | reference (value : Comparand)

namespace Comparand

/-- The text of a value in a filter. -/
def render : Comparand → String
  | integer _ value _ => Text.decimal value
  | double bits =>
    FloatingPoint.Layout.plain.text .double (.ofBits .double bits.toNat)
  | single bits =>
    FloatingPoint.Layout.plain.text .single (.ofBits .single bits.toNat)
  | instant seconds _ => Text.decimal seconds
  | boolean value => if value then "true" else "false"
  | text content => content
  | category c => Text.decimal c.code
  | region r => Text.decimal r.code
  | absent => "null"
  | present value => value.render
  | reference value => value.render

/-- The value has a place on a scale, so that it can be compared by order. -/
def isNumeric : Comparand → Bool
  | integer .. | double .. | single .. | instant .. => true
  | reference value => value.isNumeric
  | _ => false

end Comparand

/-- A value that can be compared by order. -/
abbrev NumericComparand : Type := { c : Comparand // c.isNumeric = true }

/-- The texts of several values with commas between them. -/
def joinComparands (values : List Comparand) : String :=
  Text.joined "," (values.map Comparand.render)

end Apicalypse

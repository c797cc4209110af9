import Apicalypse.Log.Pattern
import Apicalypse.Text.Decimal
import Apicalypse.Text.Split

/-!
# Conditions on fields

What a directive asks of a field: that an event has it, or that its value is a given one. A wanted
value is a number, or else a pattern.

* `FieldCondition.parse?`: the condition of a text.
-/

namespace Apicalypse

/-! ## Numbers -/

namespace FieldCondition

/-- A text without one sign in front. -/
def unsigned : List Char → List Char
  | '+' :: rest | '-' :: rest => rest
  | cs => cs

/-- Digits only, and at least one. -/
def isDigits (cs : List Char) : Bool := !cs.isEmpty && cs.all Char.isDigit

/-- Digits with at most one point among them, before which or after which there is one. -/
def isMantissa (cs : List Char) : Bool :=
  match Text.splitFirst? '.' cs with
  | none => isDigits cs
  | some (before, after) => isDigits (before ++ after)

/-- Digits with an optional point and an optional exponent. -/
def isPlainNumber (cs : List Char) : Bool :=
  match cs.dropWhile fun c => c ≠ 'e' ∧ c ≠ 'E' with
  | [] => isMantissa cs
  | _ :: exponent =>
    isMantissa (cs.takeWhile fun c => c ≠ 'e' ∧ c ≠ 'E') && isDigits (unsigned exponent)

/-- A number with an optional sign, or one of the values that are none. -/
def isNumber (cs : List Char) : Bool :=
  isPlainNumber (unsigned cs) ||
    String.ofList ((unsigned cs).map Char.toLower) ∈ ["inf", "infinity", "nan"]

end FieldCondition

/-! ## Conditions -/

/-- What a directive asks of a field. -/
inductive FieldCondition where
  /-- There is a field of the name. -/
  | present (name : String)
  /-- The field of the name has a certain value. -/
  | valued (name : String)
  deriving DecidableEq, Repr

namespace FieldCondition

/-- The condition of a text: a name, and perhaps a value after an equals sign. What follows a
second equals sign does not matter. -/
def parse? (cs : List Char) : Option FieldCondition :=
  match Text.splitFirst? '=' cs with
  | none => some (.present (String.ofList cs))
  | some (name, rest) =>
    let value := rest.takeWhile (· ≠ '=')
    if isNumber value || Pattern.isWellFormed value then some (.valued (String.ofList name))
    else none

end FieldCondition

end Apicalypse

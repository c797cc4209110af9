import Apicalypse.Json.Enumeration
import Apicalypse.Text.Lowercase
import Apicalypse.Text.Split

/-!
# Sort orders

A field with a direction, descending when none is given.

* `SortOrder.parse?`: a direction by one of its names, in capital or small letters.
* `SortOrder.json`: the names of the directions in JSON.
* `Sorting.parse`: a field, optionally followed by a colon and a direction.
-/

namespace Apicalypse

/-- The direction of a sort. -/
inductive SortOrder where
  | ascending
  | descending
  deriving DecidableEq, Repr

namespace SortOrder

instance : Inhabited SortOrder := ⟨descending⟩

/-- The word of a direction in a query. -/
def token : SortOrder → String
  | ascending => "asc"
  | descending => "desc"

/-- The direction of a name, short or long, in any mixture of capital and small letters. -/
def parse? (s : String) : Option SortOrder :=
  match Text.lowercase s with
  | "asc" | "ascending" => some ascending
  | "desc" | "descending" => some descending
  | _ => none

/-- The directions in JSON. They are written in full, and read from the words of a query, too. -/
def json : Json.Enumeration SortOrder where
  values := [ascending, descending]
  style := .lowercase
  identifier
    | ascending => "Ascending"
    | descending => "Descending"
  aliases
    | ascending => ["asc"]
    | descending => ["desc"]

/-- The opposite direction. -/
def reverse : SortOrder → SortOrder
  | ascending => descending
  | descending => ascending

end SortOrder

/-- A field and the direction in which it sorts. -/
structure Sorting where
  field : String
  order : SortOrder
  deriving DecidableEq, Repr

namespace Sorting

/-- Sorts by a field, the least first. -/
def ascending (field : String) : Sorting := ⟨field, .ascending⟩

/-- Sorts by a field, the greatest first. -/
def descending (field : String) : Sorting := ⟨field, .descending⟩

/-- The same field in the opposite direction. -/
def reversed (sort : Sorting) : Sorting := { sort with order := sort.order.reverse }

/-- The content of the clause. -/
def render (sort : Sorting) : String := sort.field ++ " " ++ sort.order.token

/-! ## Reading -/

/-- Why a text names no sort. -/
inductive ReadError where
  | unknownDirection (text : String)
  | emptyField
  deriving DecidableEq, Repr

namespace ReadError

/-- The fault in words. -/
def message : ReadError → String
  | unknownDirection text => "unknown sort direction '" ++ text ++ "'"
  | emptyField => "sort field must not be empty"

end ReadError

/-- A sort by a field that must not be empty. -/
def ofField (field : List Char) (order : SortOrder) : Except ReadError Sorting :=
  if field.isEmpty then .error .emptyField else .ok ⟨String.ofList field, order⟩

/-- The sort that `field` or `field:direction` names. All after the first colon is the direction,
and a direction that is none is the fault reported first. -/
def parse (s : String) : Except ReadError Sorting :=
  match Text.splitFirst? ':' s.toList with
  | none => ofField s.toList default
  | some (field, direction) =>
    match SortOrder.parse? (String.ofList direction) with
    | some order => ofField field order
    | none => .error (.unknownDirection (String.ofList direction))

end Sorting

end Apicalypse

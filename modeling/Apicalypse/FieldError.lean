/-!
# Unresolved field references

The one way in which naming a field can fail: the entity's table does not declare the reference.
-/

namespace Apicalypse

/-- The table of `entity` does not declare `reference`. -/
structure FieldError where
  entity : String
  reference : String
  deriving DecidableEq, Repr

namespace FieldError

/-- The error in words. -/
def message (e : FieldError) : String :=
  "Field not recognized: " ++ e.reference ++ " is not declared on " ++ e.entity

/-- The stable name of this kind of error. -/
def code (_ : FieldError) : String := "field_not_recognized"

end FieldError

end Apicalypse

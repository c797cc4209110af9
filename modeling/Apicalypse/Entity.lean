import Apicalypse.FieldTable

/-!
# Entities

What a query needs to know of the thing it asks for: its wire name, whether it can be searched,
and how its typed field references resolve to paths. A field may also be named by a raw wire name
or by a path.
-/

namespace Apicalypse

/-- A kind of thing that can be queried. -/
structure Entity where
  name : String
  searchable : Bool
  Field : Type
  resolve : Field → Attempt FieldPath

/-- The ways to name a field of an entity. -/
inductive FieldArgument (E : Entity) where
  /-- A wire name, taken literally. -/
  | raw (name : String)
  | path (segments : FieldPath)
  | reference (field : E.Field)

namespace FieldArgument

/-- The path that is meant. Only a typed reference can fail. -/
def resolve {E : Entity} : FieldArgument E → Attempt FieldPath
  | raw name => pure (.name name)
  | path segments => pure segments
  | reference field => E.resolve field

end FieldArgument

end Apicalypse

import Apicalypse.Text.Split

/-!
# Field paths

A field of an entity, or a field reached through relations: one or more segments, written with
dots between them. A segment is a literal name and keeps the dots it holds.

* `FieldPath.name`, `FieldPath.nested`, `FieldPath.join`: the ways to build a path.
* `FieldPath.Expression`: the expressions over these operations; `names` lists the literal names
  in reading order.
-/

namespace Apicalypse

/-- A path has at least one segment, so the first is kept apart. -/
structure FieldPath where
  head : String
  tail : List String
  deriving DecidableEq, Repr

namespace FieldPath

/-- The path of one literal name. -/
def name (segment : String) : FieldPath := ⟨segment, []⟩

/-- The names from the outermost relation to the field. -/
def segments (path : FieldPath) : List String := path.head :: path.tail

/-- The second path reached through the first. -/
def join (parent child : FieldPath) : FieldPath := ⟨parent.head, parent.tail ++ child.segments⟩

/-- A path reached through one relation. -/
def nested (parent : String) (child : FieldPath) : FieldPath := (name parent).join child

/-- The path goes through a relation. -/
def isNested (path : FieldPath) : Bool := !path.tail.isEmpty

/-- The segments with dots between them. -/
def render (path : FieldPath) : String := Text.joined "." path.segments

@[simp] theorem segments_name (segment : String) : (name segment).segments = [segment] := rfl

@[simp] theorem segments_join (parent child : FieldPath) :
    (parent.join child).segments = parent.segments ++ child.segments := rfl

@[simp] theorem segments_nested (parent : String) (child : FieldPath) :
    (nested parent child).segments = parent :: child.segments := rfl

/-! ## Expressions -/

/-- How a path is put together. -/
inductive Expression where
  | name (segment : String)
  | nested (parent : String) (child : Expression)
  | join (parent child : Expression)
  deriving DecidableEq, Repr

namespace Expression

/-- The path that an expression builds. -/
def eval : Expression → FieldPath
  | name segment => .name segment
  | nested parent child => .nested parent child.eval
  | join parent child => parent.eval.join child.eval

/-- The literal names of an expression, from left to right. -/
def names : Expression → List String
  | name segment => [segment]
  | nested parent child => parent :: child.names
  | join parent child => parent.names ++ child.names

end Expression

end FieldPath

end Apicalypse

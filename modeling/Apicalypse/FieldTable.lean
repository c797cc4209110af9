import Apicalypse.Description
import Apicalypse.FieldPath
import Apicalypse.Log

/-!
# Field tables

The wire names of an entity's fields: a finite map from references to names. A reference declared
twice keeps the later name and counts once.

* `FieldTable.ofEntries`: the table of a list of declarations.
* `FieldTable.resolve`: the path of a declared reference; a missing one is recorded and refused.
-/

namespace Apicalypse

/-- The wire names that an entity declares. No two entries share a key. -/
structure FieldTable (κ : Type) where
  entity : String
  entries : List (κ × String)

namespace FieldTable

variable {κ : Type} [DecidableEq κ]

/-- Sets the name of a key, in its place when the key is there already. -/
def insert (key : κ) (name : String) : List (κ × String) → List (κ × String)
  | [] => [(key, name)]
  | entry :: rest =>
    if entry.1 = key then (key, name) :: rest else entry :: insert key name rest

/-- The table of the declarations, the later ones overriding the earlier ones. -/
def ofEntries (entity : String) (declarations : List (κ × String)) : FieldTable κ :=
  ⟨entity, declarations.foldl (fun entries (key, name) => insert key name entries) []⟩

/-- The wire name of a key. -/
def name? (table : FieldTable κ) (key : κ) : Option String :=
  (table.entries.find? (·.1 = key)).map (·.2)

/-- The key is declared. -/
def contains (table : FieldTable κ) (key : κ) : Bool := (table.name? key).isSome

/-- How many keys are declared. -/
def size (table : FieldTable κ) : Nat := table.entries.length

/-- No key is declared. -/
def isEmpty (table : FieldTable κ) : Bool := table.entries.isEmpty

/-- The event of a reference that a table does not declare. -/
def missing (e : FieldError) : Event where
  level := .debug
  target := "apicalypse_core::types"
  message := "field reference missing from mapping table"
  fields := [("entity", .text e.entity), ("reference", .word e.reference)]

/-- The path of a declared key: its wire name as one segment. -/
def resolve [Describable κ] (table : FieldTable κ) (key : κ) : Attempt FieldPath :=
  match table.name? key with
  | some name => pure (.name name)
  | none => do
    let e : FieldError := ⟨table.entity, (describe key).render⟩
    Attempt.record (missing e)
    throw e

end FieldTable

end Apicalypse

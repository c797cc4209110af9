import Apicalypse.Entity

/-!
# Platforms

The hardware or software that games run on. Platforms can be searched, and their fields can also
be reached through the relations of games and release dates.
-/

namespace Apicalypse

/-- A property of a platform. -/
inductive PlatformField where
  | id
  | name
  | abbreviation
  | alternativeName
  | slug
  | generation
  deriving DecidableEq, Repr

namespace PlatformField

/-- All properties. -/
def all : List PlatformField := [id, name, abbreviation, alternativeName, slug, generation]

instance : Describable PlatformField where
  describe
    | id => .word "Id"
    | name => .word "Name"
    | abbreviation => .word "Abbreviation"
    | alternativeName => .word "AlternativeName"
    | slug => .word "Slug"
    | generation => .word "Generation"

/-- The wire names. -/
def table : FieldTable PlatformField :=
  .ofEntries "platforms" [
    (id, "id"),
    (name, "name"),
    (abbreviation, "abbreviation"),
    (alternativeName, "alternative_name"),
    (slug, "slug"),
    (generation, "generation")]

/-- The path of a property, seen from a platform. -/
def resolve (field : PlatformField) : Attempt FieldPath := table.resolve field

end PlatformField

namespace Entity

/-- Platforms as a kind of thing that can be queried. -/
def platform : Entity where
  name := "platforms"
  searchable := true
  Field := PlatformField
  resolve := PlatformField.resolve

end Entity

end Apicalypse

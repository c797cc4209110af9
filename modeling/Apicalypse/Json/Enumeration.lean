import Apicalypse.Json.Shape

/-!
# Enumerations in JSON

The values of an enumeration stand in JSON under names that are made of their identifiers.

* `NameStyle.apply`: the name that an identifier gives.
* `Enumeration`: the identifiers of the values, how names are made of them, and the further names
  under which a value is read.
* `Enumeration.read`, `Enumeration.toJson`: reading and writing a value.
-/

namespace Apicalypse.Json

/-- How an identifier such as `OneTwo` becomes a name. -/
inductive NameStyle where
  /-- It becomes `onetwo`. -/
  | lowercase
  /-- It becomes `one_two`. -/
  | snakeCase
  deriving DecidableEq, Repr

namespace NameStyle

/-- Small letters, and an underscore before each capital letter but the first. -/
def snake : List Char → List Char
  | [] => []
  | first :: rest =>
    first.toLower :: rest.flatMap fun c => if c.isUpper then ['_', c.toLower] else [c.toLower]

/-- The name that an identifier gives. -/
def apply : NameStyle → String → String
  | lowercase, identifier => String.ofList (identifier.toList.map Char.toLower)
  | snakeCase, identifier => String.ofList (snake identifier.toList)

end NameStyle

/-- The names of an enumeration in JSON. -/
structure Enumeration (α : Type) where
  /-- All values, in the order in which a name is compared with theirs. -/
  values : List α
  style : NameStyle
  identifier : α → String
  /-- Names that are read but not written. -/
  aliases : α → List String

namespace Enumeration

variable {α : Type} (enumeration : Enumeration α)

/-- The name under which a value is written. -/
def name (x : α) : String := enumeration.style.apply (enumeration.identifier x)

/-- The names under which a value is read. -/
def names (x : α) : List String := enumeration.name x :: enumeration.aliases x

/-- The value of a name. -/
def ofName? (name : String) : Option α :=
  enumeration.values.find? fun x => name ∈ enumeration.names x

/-- Reads a value by its name. -/
def read (tokens : List Token) : Except Failure (α × List Token) :=
  readNamed enumeration.ofName? tokens

/-- A value in JSON. -/
def toJson (x : α) : Value := .string (enumeration.name x)

end Enumeration

end Apicalypse.Json

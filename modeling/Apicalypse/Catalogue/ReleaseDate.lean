import Apicalypse.Catalogue.Platform

/-!
# Release dates

The releases of games, each on one platform in one region. They cannot be searched.
-/

namespace Apicalypse

/-- A property of a release date, or of the platform of the release. -/
inductive ReleaseDateField where
  | id
  | date
  | human
  | region
  | platformId
  | gameId
  | platform (field : PlatformField)
  deriving DecidableEq, Repr

namespace ReleaseDateField

/-- The properties of the release itself. -/
def own : List ReleaseDateField := [id, date, human, region, platformId, gameId]

instance : Describable ReleaseDateField where
  describe
    | id => .word "Id"
    | date => .word "Date"
    | human => .word "Human"
    | region => .word "Region"
    | platformId => .word "PlatformId"
    | gameId => .word "GameId"
    | platform field => .apply "Platform" (describe field)

/-- The wire names of the properties of the release itself. -/
def table : FieldTable ReleaseDateField :=
  .ofEntries "release_dates" [
    (id, "id"),
    (date, "date"),
    (human, "human"),
    (region, "region"),
    (platformId, "platform"),
    (gameId, "game")]

/-- The path of a property, seen from a release date. -/
def resolve : ReleaseDateField → Attempt FieldPath
  | platform field => do
    let relation ← table.resolve platformId
    return relation.join (← field.resolve)
  | field => table.resolve field

end ReleaseDateField

namespace Entity

/-- Release dates as a kind of thing that can be queried. -/
def releaseDate : Entity where
  name := "release_dates"
  searchable := false
  Field := ReleaseDateField
  resolve := ReleaseDateField.resolve

end Entity

end Apicalypse

import Apicalypse.Catalogue.ReleaseDate

/-!
# Games

Game entries. Games can be searched, and a query on them reaches into their platforms and release
dates.
-/

namespace Apicalypse

/-- A property of a game, of its platforms or of its release dates. -/
inductive GameField where
  | id
  | name
  | slug
  | summary
  | category
  | firstReleaseDate
  | totalRating
  | platforms
  | releaseDates
  | screenshots
  | genres
  | platform (field : PlatformField)
  | releaseDate (field : ReleaseDateField)
  deriving DecidableEq, Repr

namespace GameField

/-- The properties of the game itself. -/
def own : List GameField :=
  [id, name, slug, summary, category, firstReleaseDate, totalRating, platforms, releaseDates,
    screenshots, genres]

instance : Describable GameField where
  describe
    | id => .word "Id"
    | name => .word "Name"
    | slug => .word "Slug"
    | summary => .word "Summary"
    | category => .word "Category"
    | firstReleaseDate => .word "FirstReleaseDate"
    | totalRating => .word "TotalRating"
    | platforms => .word "Platforms"
    | releaseDates => .word "ReleaseDates"
    | screenshots => .word "Screenshots"
    | genres => .word "Genres"
    | platform field => .apply "Platform" (describe field)
    | releaseDate field => .apply "ReleaseDate" (describe field)

/-- The wire names of the properties of the game itself. -/
def table : FieldTable GameField :=
  .ofEntries "games" [
    (id, "id"),
    (name, "name"),
    (slug, "slug"),
    (summary, "summary"),
    (category, "category"),
    (firstReleaseDate, "first_release_date"),
    (totalRating, "total_rating"),
    (platforms, "platforms"),
    (releaseDates, "release_dates"),
    (screenshots, "screenshots"),
    (genres, "genres")]

/-- The path of a property, seen from a game. -/
def resolve : GameField → Attempt FieldPath
  | platform field => do
    let relation ← table.resolve platforms
    return relation.join (← field.resolve)
  | releaseDate field => do
    let relation ← table.resolve releaseDates
    return relation.join (← field.resolve)
  | field => table.resolve field

end GameField

namespace Entity

/-- Games as a kind of thing that can be queried. -/
def game : Entity where
  name := "games"
  searchable := true
  Field := GameField
  resolve := GameField.resolve

end Entity

end Apicalypse

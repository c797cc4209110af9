import Apicalypse.Catalogue.Game

/-!
# Endpoints

The endpoints that the command line knows, and the entities behind them.
-/

namespace Apicalypse

/-- An endpoint of the service. -/
inductive Endpoint where
  | games
  | platforms
  | releaseDates
  deriving DecidableEq, Repr

namespace Endpoint

/-- All endpoints. -/
def all : List Endpoint := [games, platforms, releaseDates]

/-- The name of an endpoint on the command line. -/
def name : Endpoint → String
  | games => "games"
  | platforms => "platforms"
  | releaseDates => "release-dates"

/-- The endpoint of an exact name. -/
def ofName? : String → Option Endpoint
  | "games" => some games
  | "platforms" => some platforms
  | "release-dates" => some releaseDates
  | _ => none

/-- The entity whose entries an endpoint returns. -/
def entity : Endpoint → Entity
  | games => .game
  | platforms => .platform
  | releaseDates => .releaseDate

instance : Describable Endpoint where
  describe
    | games => .word "Games"
    | platforms => .word "Platforms"
    | releaseDates => .word "ReleaseDates"

end Endpoint

end Apicalypse

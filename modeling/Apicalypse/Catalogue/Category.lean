import Apicalypse.Description

/-!
# Game categories

The kinds of game entries. On the wire a category is its code, counted from zero.
-/

namespace Apicalypse

/-- The kind of a game entry. -/
inductive Category where
  | mainGame
  | dlcAddon
  | expansion
  | bundle
  | standaloneExpansion
  | mod
  | episode
  | season
  | remake
  | remaster
  | expandedGame
  | portedGame
  | fork
  deriving DecidableEq, Repr, Inhabited

namespace Category

/-- All categories, in the order of their codes. -/
def all : List Category :=
  [mainGame, dlcAddon, expansion, bundle, standaloneExpansion, mod, episode, season, remake,
    remaster, expandedGame, portedGame, fork]

/-- The wire code. -/
def code : Category → Nat
  | mainGame => 0
  | dlcAddon => 1
  | expansion => 2
  | bundle => 3
  | standaloneExpansion => 4
  | mod => 5
  | episode => 6
  | season => 7
  | remake => 8
  | remaster => 9
  | expandedGame => 10
  | portedGame => 11
  | fork => 12

/-- The category of a wire code. -/
def ofCode? (code : Nat) : Option Category := all[code]?

instance : Describable Category where
  describe
    | mainGame => .word "MainGame"
    | dlcAddon => .word "DlcAddon"
    | expansion => .word "Expansion"
    | bundle => .word "Bundle"
    | standaloneExpansion => .word "StandaloneExpansion"
    | mod => .word "Mod"
    | episode => .word "Episode"
    | season => .word "Season"
    | remake => .word "Remake"
    | remaster => .word "Remaster"
    | expandedGame => .word "ExpandedGame"
    | portedGame => .word "Port"
    | fork => .word "Fork"

theorem ofCode?_code (category : Category) : ofCode? category.code = some category := by
  cases category <;> rfl

end Category

end Apicalypse

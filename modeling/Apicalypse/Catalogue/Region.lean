import Apicalypse.Description

/-!
# Release regions

The parts of the world in which a game is released. On the wire a region is its code, counted
from one.
-/

namespace Apicalypse

/-- Where a release takes place. -/
inductive Region where
  | europe
  | northAmerica
  | australia
  | newZealand
  | japan
  | china
  | asia
  | worldwide
  | korea
  | brazil
  deriving DecidableEq, Repr

namespace Region

/-- All regions, in the order of their codes. -/
def all : List Region :=
  [europe, northAmerica, australia, newZealand, japan, china, asia, worldwide, korea, brazil]

/-- The wire code. -/
def code : Region → Nat
  | europe => 1
  | northAmerica => 2
  | australia => 3
  | newZealand => 4
  | japan => 5
  | china => 6
  | asia => 7
  | worldwide => 8
  | korea => 9
  | brazil => 10

instance : Describable Region where
  describe
    | europe => .word "Europe"
    | northAmerica => .word "NorthAmerica"
    | australia => .word "Australia"
    | newZealand => .word "NewZealand"
    | japan => .word "Japan"
    | china => .word "China"
    | asia => .word "Asia"
    | worldwide => .word "Worldwide"
    | korea => .word "Korea"
    | brazil => .word "Brazil"

end Region

end Apicalypse

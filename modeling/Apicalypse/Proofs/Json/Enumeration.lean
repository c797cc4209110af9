import Apicalypse.Json.Enumeration

/-!
# Names of enumerations

* `Enumeration.ofName?_eq_some_iff`: where all values are listed and no two of them share a name,
  the value of a name is the one that has it.
-/

namespace Apicalypse.Json.Enumeration

variable {α : Type}

theorem ofName?_eq_some_iff {enumeration : Enumeration α} (hall : ∀ x, x ∈ enumeration.values)
    (hdistinct : ∀ x ∈ enumeration.values, ∀ y ∈ enumeration.values,
      ∀ name ∈ enumeration.names x, name ∈ enumeration.names y → x = y) (name : String) (x : α) :
    enumeration.ofName? name = some x ↔ name ∈ enumeration.names x := by
  constructor
  · intro h
    simpa using List.find?_some h
  · intro h
    cases hfind : enumeration.ofName? name with
    | none =>
      exact absurd h (by simpa using List.find?_eq_none.mp hfind x (hall x))
    | some y =>
      have hy : name ∈ enumeration.names y := by simpa using List.find?_some hfind
      rw [hdistinct x (hall x) y (hall y) name h hy]

end Apicalypse.Json.Enumeration

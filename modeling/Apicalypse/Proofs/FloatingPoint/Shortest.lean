import Apicalypse.FloatingPoint.Shortest
import Mathlib.Tactic.Ring

/-!
# The search for the shortest decimal

What the search finds, whichever way ties go.

* `RoundingInterval.Proper`: the number lies within its interval, away from zero.
* `onGrid?_eq_some`, `onGrid?_eq_none_iff`: a point found on a grid is one of the number's two
  neighbours and lies in the interval; that there is one does not depend on ties.
* `search_spec`: the grid found has a point in the interval, and no coarser one has.
* `shortest_exponent_eq`: ties do not change the exponent of the shortest decimal.
* `not_dvd_shortest_digits`: the digits of the shortest decimal end in no zero.
-/

namespace Apicalypse.FloatingPoint

namespace RoundingInterval

/-- The number is a whole one in quarters. It lies within its interval, which ends above zero. -/
structure Proper (r : RoundingInterval) : Prop where
  lower_pos : 0 < r.lower
  lower_lt : r.lower < r.number
  lt_upper : r.number < r.upper
  dvd_number : 4 ∣ r.number

/-! ## Grids -/

/-- The multiple of `step` next to the number, from below or from above. -/
def IsNeighbour (r : RoundingInterval) (step multiple : Nat) : Prop :=
  multiple = r.number / step ∨ (¬ step ∣ r.number ∧ multiple = r.number / step + 1)

theorem isNeighbour_iff (r : RoundingInterval) (step multiple : Nat) :
    r.IsNeighbour step multiple ↔ multiple = r.number / step ∨
      multiple = if r.number % step = 0 then r.number / step else r.number / step + 1 := by
  rw [IsNeighbour, Nat.dvd_iff_mod_eq_zero]
  split <;> simp_all

theorem onGrid?_eq_none_iff (r : RoundingInterval) (tie : Tie) (step : Nat) :
    r.onGrid? tie step = none ↔
      ∀ multiple, r.IsNeighbour step multiple → r.contains (multiple * step) = false := by
  simp only [isNeighbour_iff, forall_eq_or_imp, forall_eq, onGrid?]
  generalize (if r.number % step = 0 then r.number / step else r.number / step + 1) = above
  cases r.contains (r.number / step * step) <;> cases r.contains (above * step) <;> simp
  split <;> (try split) <;> (try split) <;> (try split) <;> simp

theorem onGrid?_eq_some {r : RoundingInterval} {tie : Tie} {step multiple : Nat}
    (h : r.onGrid? tie step = some multiple) :
    r.IsNeighbour step multiple ∧ r.contains (multiple * step) = true := by
  simp only [isNeighbour_iff, onGrid?] at h ⊢
  generalize (if r.number % step = 0 then r.number / step else r.number / step + 1) = above at h ⊢
  cases hbelow : r.contains (r.number / step * step) <;>
    cases habove : r.contains (above * step) <;> simp only [hbelow, habove] at h
  · cases h
  · exact Option.some.inj h ▸ ⟨.inr rfl, habove⟩
  · exact Option.some.inj h ▸ ⟨.inl rfl, hbelow⟩
  · have hmultiple : multiple = r.number / step ∨ multiple = above := by
      split at h <;> (try split at h) <;> (try split at h) <;> (try split at h) <;>
        simp only [Option.some.injEq] at h <;> simp [h]
    rcases hmultiple with rfl | rfl
    · exact ⟨.inl rfl, hbelow⟩
    · exact ⟨.inr rfl, habove⟩

/-- Whether a grid has a point in the interval does not depend on ties. -/
theorem onGrid?_tie (r : RoundingInterval) (tie tie' : Tie) (step : Nat) :
    r.onGrid? tie step = none ↔ r.onGrid? tie' step = none := by
  rw [onGrid?_eq_none_iff, onGrid?_eq_none_iff]

namespace Proper

variable {r : RoundingInterval} (h : r.Proper)

include h

theorem contains_number : r.contains r.number = true := by
  have hlower := h.lower_lt
  have hupper := h.lt_upper
  unfold contains
  split <;> (simp; omega)

theorem not_contains_zero : r.contains 0 = false := by
  have hlower := h.lower_pos
  unfold contains
  split
  · simp; omega
  · simp

/-- The finest grid has the number itself. -/
theorem onGrid?_four_ne_none (tie : Tie) : r.onGrid? tie 4 ≠ none := by
  intro hnone
  have hself := (onGrid?_eq_none_iff r tie 4).mp hnone (r.number / 4) (.inl rfl)
  rw [Nat.div_mul_cancel h.dvd_number, h.contains_number] at hself
  cases hself

end Proper

/-! ## The search -/

/-- The search finds a point on a grid, and none on a coarser one. -/
theorem search_spec {r : RoundingInterval} (h : r.Proper) (tie : Tie) (n : Nat) :
    (r.search tie n).2 ≤ n ∧
      r.onGrid? tie (4 * Nat.pow 10 (r.search tie n).2) = some (r.search tie n).1 ∧
      ∀ i, (r.search tie n).2 < i → i ≤ n → r.onGrid? tie (4 * Nat.pow 10 i) = none := by
  induction n with
  | zero =>
    obtain ⟨multiple, hmultiple⟩ := Option.ne_none_iff_exists'.mp (h.onGrid?_four_ne_none tie)
    refine ⟨Nat.le_refl 0, ?_, fun i hpos hle => absurd hpos (Nat.not_lt.mpr hle)⟩
    simp [search, hmultiple]
  | succ n ih =>
    rw [search]
    cases hgrid : r.onGrid? tie (4 * Nat.pow 10 (n + 1)) with
    | some multiple =>
      exact ⟨Nat.le_refl _, hgrid, fun i hpos hle => absurd hpos (Nat.not_lt.mpr hle)⟩
    | none =>
      obtain ⟨hle, hfound, hcoarser⟩ := ih
      refine ⟨Nat.le_succ_of_le hle, hfound, fun i hpos hi => ?_⟩
      rcases Nat.le_succ_iff.mp hi with hi | rfl
      · exact hcoarser i hpos hi
      · exact hgrid

/-- Ties do not change the grid that is found. -/
theorem search_power_eq (r : RoundingInterval) (tie tie' : Tie) (n : Nat) :
    (r.search tie n).2 = (r.search tie' n).2 := by
  induction n with
  | zero => rfl
  | succ n ih =>
    have htie := r.onGrid?_tie tie tie' (4 * Nat.pow 10 (n + 1))
    rw [search, search]
    cases hgrid : r.onGrid? tie (4 * Nat.pow 10 (n + 1)) <;>
      cases hgrid' : r.onGrid? tie' (4 * Nat.pow 10 (n + 1)) <;> simp_all

/-- A neighbour on a grid that lies on the next coarser grid is a neighbour there. -/
theorem IsNeighbour.coarser {r : RoundingInterval} {step multiple : Nat}
    (h : r.IsNeighbour step (10 * multiple)) : r.IsNeighbour (10 * step) multiple := by
  have hdiv : r.number / (10 * step) = r.number / step / 10 := by
    rw [Nat.mul_comm, Nat.div_div_eq_div_mul]
  rcases h with hbelow | ⟨hdvd, habove⟩
  · exact .inl (by omega)
  · exact .inr ⟨fun hcoarse => hdvd (Nat.dvd_trans (Nat.dvd_mul_left step 10) hcoarse), by omega⟩

/-- The multiple that is found is no multiple of ten, when the search starts beyond the number. -/
theorem not_dvd_search {r : RoundingInterval} (h : r.Proper) (tie : Tie) {n : Nat}
    (hn : r.number < 4 * Nat.pow 10 n) : ¬ 10 ∣ (r.search tie n).1 := by
  rintro ⟨multiple, hmultiple⟩
  obtain ⟨hle, hfound, hcoarser⟩ := search_spec h tie n
  obtain ⟨hneighbour, hcontains⟩ := onGrid?_eq_some hfound
  rw [hmultiple] at hneighbour hcontains
  have hpos : 0 < multiple := by
    rcases Nat.eq_zero_or_pos multiple with rfl | hpos
    · simp [h.not_contains_zero] at hcontains
    · exact hpos
  rcases Nat.lt_or_eq_of_le hle with hlt | heq
  · have hstep : 4 * Nat.pow 10 ((r.search tie n).2 + 1) =
        10 * (4 * Nat.pow 10 (r.search tie n).2) := by
      simp only [Nat.pow_eq]
      ring
    have hnone := hcoarser _ (Nat.lt_succ_self _) hlt
    rw [hstep] at hnone
    have hfalse := (onGrid?_eq_none_iff r tie _).mp hnone multiple hneighbour.coarser
    rw [← Nat.mul_assoc, Nat.mul_comm multiple 10, hcontains] at hfalse
    cases hfalse
  · rw [heq] at hneighbour
    have hbelow : r.number / (4 * Nat.pow 10 n) = 0 := Nat.div_eq_of_lt hn
    rcases hneighbour with hzero | ⟨-, hone⟩ <;> omega

end RoundingInterval

/-! ## Magnitudes -/

namespace Magnitude

variable (fmt : Format) (m : Magnitude)

theorem interval_proper (hm : m.significand ≠ 0) : (m.interval fmt).Proper := by
  have hgap : 0 < if 0 ≤ m.exponent then Nat.pow 2 m.exponent.toNat else Nat.pow 5 m.places := by
    split <;> exact Nat.pow_pos (by decide)
  unfold interval
  simp only
  generalize (if 0 ≤ m.exponent then Nat.pow 2 m.exponent.toNat else Nat.pow 5 m.places) = gap
    at hgap ⊢
  have hnumber : gap ≤ m.significand * gap := Nat.le_mul_of_pos_left gap (Nat.pos_of_ne_zero hm)
  refine ⟨?_, ?_, ?_, Nat.dvd_mul_right 4 _⟩ <;> simp only
  · split <;> omega
  · split <;> omega
  · omega

/-- Ties do not change the exponent of the shortest decimal. -/
theorem shortest_exponent_eq (tie tie' : Tie) :
    (m.shortest fmt tie).exponent = (m.shortest fmt tie').exponent := by
  unfold shortest
  split
  · rfl
  · simp only [RoundingInterval.search_power_eq _ tie tie']

/-- The digits of the shortest decimal end in no zero. -/
theorem not_dvd_shortest_digits (hm : m.significand ≠ 0) (tie : Tie) :
    ¬ 10 ∣ (m.shortest fmt tie).digits := by
  have hlength : (m.interval fmt).number <
      10 ^ (Nat.toDigits 10 (m.interval fmt).number).length :=
    (Nat.length_toDigits_le_iff (by decide) (List.length_pos_iff.mpr Nat.toDigits_ne_nil)).mp
      (Nat.le_refl _)
  rw [shortest, if_neg hm]
  exact RoundingInterval.not_dvd_search (m.interval_proper fmt hm) tie
    (Nat.lt_of_lt_of_le hlength (Nat.le_mul_of_pos_left _ (by decide)))

theorem shortest_digits_ne_zero (hm : m.significand ≠ 0) (tie : Tie) :
    (m.shortest fmt tie).digits ≠ 0 :=
  fun h => m.not_dvd_shortest_digits fmt hm tie (h ▸ Nat.dvd_zero 10)

end Magnitude

end Apicalypse.FloatingPoint

import Apicalypse.Proofs.Query.Run

/-!
# Calls on different slots

A call changes one slot of a query and reads no other. So the calls on one slot may be moved past
those on another: the order of two calls only matters when they are on the same slot.

* `SameIn slot q r`: the queries `q` and `r` hold the same in a slot.
* `sameIn_after_of_ne`, `SameIn.after`: a call leaves the other slots alone, and what it leaves in
  its own slot depends on that slot only.
* `sameIn_foldl_filter`: what a run leaves in a slot is what the calls on this slot leave there.
* `run_interleaved`: runs that agree on the calls on each slot end in the same query, and each call
  meets the same fate in both.
-/

namespace Apicalypse.Query

variable {E : Entity}

/-! ## One slot -/

/-- The queries hold the same in the slot. -/
def SameIn : Slot → Query E → Query E → Prop
  | .includes, q, r => q.includes = r.includes
  | .excludes, q, r => q.excludes = r.excludes
  | .sort, q, r => q.sort = r.sort
  | .filter, q, r => q.filter = r.filter
  | .limit, q, r => q.limit = r.limit
  | .offset, q, r => q.offset = r.offset
  | .search, q, r => q.search = r.search

theorem SameIn.refl (slot : Slot) (query : Query E) : SameIn slot query query := by
  cases slot <;> rfl

theorem SameIn.symm {slot : Slot} {q r : Query E} (h : SameIn slot q r) : SameIn slot r q := by
  cases slot <;> exact Eq.symm h

theorem SameIn.trans {slot : Slot} {q r s : Query E} (h : SameIn slot q r) (h' : SameIn slot r s) :
    SameIn slot q s := by
  cases slot <;> exact Eq.trans h h'

/-- A query has nothing beside its slots. -/
theorem eq_of_sameIn {q r : Query E} (h : ∀ slot, SameIn slot q r) : q = r := by
  obtain ⟨includes, excludes, filter, sort, search, limit, offset⟩ := q
  obtain rfl : includes = r.includes := h .includes
  obtain rfl : excludes = r.excludes := h .excludes
  obtain rfl : filter = r.filter := h .filter
  obtain rfl : sort = r.sort := h .sort
  obtain rfl : search = r.search := h .search
  obtain rfl : limit = r.limit := h .limit
  obtain rfl : offset = r.offset := h .offset
  rfl

/-! ## One call -/

/-- What a call leaves in a slot depends only on what was there. -/
theorem SameIn.after {slot : Slot} {q r : Query E} (h : SameIn slot q r) (call : Call E) :
    SameIn slot (q.after call) (r.after call) := by
  cases slot with
  | includes | excludes => exact congrArg (· ++ _) h
  | sort | filter | limit | offset | search => exact congrArg (Option.or _) h

/-- A call leaves the other slots alone. -/
theorem sameIn_after_of_ne {slot : Slot} {call : Call E} (h : call.slot ≠ slot) (query : Query E) :
    SameIn slot (query.after call) query := by
  cases slot with
  | includes | excludes => simp [SameIn, Query.after, Call.added, h]
  | sort | filter | limit | offset | search =>
    -- Each of these slots has calls of its own, and `h` says that this is none of them.
    cases call <;> simp_all [SameIn, Query.after, Call.slot]

/-! ## Runs -/

/-- What a run leaves in a slot is what the calls on this slot leave there. -/
theorem sameIn_foldl_filter {slot : Slot} {q r : Query E} (h : SameIn slot q r)
    (calls : List (Call E)) : SameIn slot (calls.foldl Query.after q)
      ((calls.filter (·.slot = slot)).foldl Query.after r) := by
  induction calls generalizing q r with
  | nil => exact h
  | cons call rest ih =>
    by_cases hslot : call.slot = slot
    · rw [List.filter_cons_of_pos (by simpa using hslot)]
      exact ih (h.after call)
    · rw [List.filter_cons_of_neg (by simpa using hslot)]
      exact ih ((sameIn_after_of_ne hslot q).trans h)

/-- The runs have the same calls on each slot, in the same order. They may differ in how the calls
on different slots follow each other. -/
def Interleaved (xs ys : List (Call E)) : Prop :=
  ∀ slot : Slot, xs.filter (·.slot = slot) = ys.filter (·.slot = slot)

/-- The calls of a run, each with what became of it. -/
def report (query : Query E) (calls : List (Call E)) : List (Call E × Option FieldError) :=
  calls.zip (query.run calls).value.2

theorem report_eq (query : Query E) (calls : List (Call E)) :
    query.report calls = calls.map fun call => (call, call.error?) := by
  rw [report, run_value, ← List.map_prod_left_eq_zip]

/-- **Slots are independent.** Two runs that have the same calls on each slot end in the same query,
and on each slot the same calls fail with the same errors. In any run each call is reported on, and
one that fails leaves the query that it found. -/
theorem run_interleaved (query : Query E) {xs ys : List (Call E)} (h : Interleaved xs ys) :
    (query.run xs).value.1 = (query.run ys).value.1 ∧
      (∀ slot : Slot, (query.report xs).filter (·.1.slot = slot) =
        (query.report ys).filter (·.1.slot = slot)) ∧
      (∀ calls : List (Call E), (query.run calls).value.2.length = calls.length) ∧
      ∀ (before : List (Call E)) (call : Call E) (rest : List (Call E)) (e : FieldError),
        (query.run (before ++ call :: rest)).value.2[before.length]? = some (some e) →
        (query.run (before ++ [call])).value.1 = (query.run before).value.1 := by
  refine ⟨eq_of_sameIn fun slot => ?_, fun slot => ?_, fun calls => ?_,
    fun before call rest e hfails => ?_⟩
  · have hxs := sameIn_foldl_filter (SameIn.refl slot query) xs
    have hys := sameIn_foldl_filter (SameIn.refl slot query) ys
    rw [h slot] at hxs
    rw [run_value, run_value]
    exact hxs.trans hys.symm
  · rw [report_eq, report_eq, List.filter_map, List.filter_map]
    exact congrArg (List.map _) (h slot)
  · rw [run_value, List.length_map]
  · have herror : call.error? = some e := by simpa [run_value] using hfails
    simp [run_value, after_of_error? herror]

/-- Shelves, of which only the label is declared. -/
def shelf : Entity where
  name := "shelves"
  searchable := true
  Field := Bool
  resolve declared := if declared then pure (.name "label") else throw ⟨"shelves", "Colour"⟩

/-- Six calls, two of which name the colour of a shelf. -/
def straightRun : List (Call shelf) :=
  [.includeFields [.reference true, .reference false], .sort (.raw "id"), .includeField (.raw "id"),
    .search "x" rfl, .sort (.reference false), .search "y" rfl]

/-- The same calls, those on each slot still in their order. -/
def shuffledRun : List (Call shelf) :=
  [.search "x" rfl, .search "y" rfl, .sort (.raw "id"),
    .includeFields [.reference true, .reference false], .sort (.reference false),
    .includeField (.raw "id")]

theorem shuffledRun_interleaved :
    Interleaved straightRun shuffledRun ∧
      ((empty : Query shelf).run straightRun).value.2 ≠
        ((empty : Query shelf).run shuffledRun).value.2 ∧
      ((empty : Query shelf).run straightRun).value.1 =
        ((empty : Query shelf).run shuffledRun).value.1 ∧
      ((empty : Query shelf).run shuffledRun).value.1 =
        { includes := ["id"], excludes := [], filter := none, sort := some ⟨"id", .descending⟩,
          search := some "y", limit := none, offset := none } := by
  have h : Interleaved straightRun shuffledRun := fun slot => by cases slot <;> rfl
  exact ⟨h, by decide, (run_interleaved empty h).1, by decide⟩

end Apicalypse.Query

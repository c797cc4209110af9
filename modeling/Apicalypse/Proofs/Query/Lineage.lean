import Apicalypse.Proofs.Query.Description
import Apicalypse.Proofs.Query.Run
import Apicalypse.Query.Branches

/-!
# Lineages of named queries

A query under a name is made by the calls on this name since it was last started anew or cloned,
and before them by the calls that made the query it was cloned from. Calls on other names, and
calls that failed, have no part in it.

* `SameAs`: two queries agree in all parts, and in all that is asked of them. `clone_sameAs`: a
  clone is like the query it was taken from.
* `made`: the query with the parts that calls contribute; `foldl_after_empty`: a run makes it.
* `History`, `lineage`: what happened to the named queries, and the calls that a name's query goes
  back to, found by following the name back through the history.
* `advance_value`: one step sets the query of one name and looks at no more than one.
* `Descends`, `Descends.advance`, `Descends.run`: every name has the query that its lineage makes,
  and a step keeps it so.
* `get_run_of_ne`: a name that no step sets keeps its query.
* `run_lineage`: the same for a run from unused names; what a step does not set stays as it was.
-/

namespace Apicalypse.Query

variable {E : Entity}

/-! ## Queries that are alike -/

/-- The two queries agree in their seven parts, count as equal, and answer and read the same. -/
structure SameAs (q r : Query E) : Prop where
  includes : q.includes = r.includes
  excludes : q.excludes = r.excludes
  filter : q.filter = r.filter
  sort : q.sort = r.sort
  search : q.search = r.search
  limit : q.limit = r.limit
  offset : q.offset = r.offset
  beq : (q == r) = true
  isEmpty : q.isEmpty = r.isEmpty
  build : q.build = r.build

theorem SameAs.refl (query : Query E) : query.SameAs query :=
  ⟨rfl, rfl, rfl, rfl, rfl, rfl, rfl, beq_self_eq_true query, rfl, rfl⟩

/-- Cloning leaves out no part and changes none. -/
theorem clone_eq (query : Query E) : query.clone = query := rfl

/-- A clone has all seven parts of the query it was taken from. -/
theorem clone_sameAs (query : Query E) : query.clone.SameAs query := by
  rw [clone_eq]
  exact .refl query

/-- The query that calls put together: the lists of names in the order of the calls, and of each
other part the last one that is set. -/
def made (calls : List (Call E)) : Query E where
  includes := calls.flatMap (Call.added .includes)
  excludes := calls.flatMap (Call.added .excludes)
  filter := latest? Call.filter? calls
  sort := latest? Call.sorting? calls
  search := latest? Call.term? calls
  limit := latest? Call.limit? calls
  offset := latest? Call.offset? calls

theorem foldl_after_empty (calls : List (Call E)) : calls.foldl after empty = made calls := by
  simp [foldl_after, made, empty]

namespace Branches

/-! ## Histories -/

/-- Steps and what became of them, the latest first. -/
abbrev History (E : Entity) := List (Step E × Option FieldError)

/-- The calls that the query of a name goes back to, in their order. Where a clone was put under the
name, they are those of the name it was taken from, up to then. -/
def lineage : History E → String → List (Call E)
  | [], _ => []
  | (.clear set, _) :: earlier, name => if set = name then [] else lineage earlier name
  | (.call set call, none) :: earlier, name =>
    if set = name then lineage earlier name ++ [call] else lineage earlier name
  | (.call _ _, some _) :: earlier, name => lineage earlier name
  | (.fork source target, _) :: earlier, name =>
    lineage earlier (if target = name then source else name)

/-- What happens to named queries, none of which has been used, in a run. -/
def history (steps : List (Step E)) : History E :=
  (steps.zip ((empty : Branches E).run steps).value.2).reverse

/-! ## One step -/

theorem get_set (branches : Branches E) (name other : String) (query : Query E) :
    (branches.set name query).get other = if name = other then query else branches.get other := by
  by_cases h : name = other
  · rw [if_pos h, h, get_set_self]
  · rw [if_neg h, get_set_of_ne branches query (Ne.symm h)]

theorem advance_value (branches : Branches E) (step : Step E) :
    (branches.advance step).value = match step with
      | .clear name => (branches.set name .empty, none)
      | .call name call => (branches.set name ((branches.get name).after call), call.error?)
      | .fork source target => (branches.set target (branches.get source).clone, none) := by
  cases step with
  | clear name | fork source target => rfl
  | call name call => simp [advance, attempt_value]

/-- A step leaves the other names alone. -/
theorem get_advance_of_ne (branches : Branches E) {step : Step E} {name : String}
    (h : name ≠ step.name) : (branches.advance step).value.1.get name = branches.get name := by
  rw [advance_value]
  cases step <;> exact get_set_of_ne branches _ h

/-- A step that fails leaves all names alone, that of its own call too. -/
theorem get_advance_of_error (branches : Branches E) {step : Step E} {e : FieldError}
    (h : (branches.advance step).value.2 = some e) (name : String) :
    (branches.advance step).value.1.get name = branches.get name := by
  rw [advance_value] at h ⊢
  cases step with
  | clear set | fork source target => cases h
  | call set call =>
    rw [get_set, after_of_error? h]
    split
    · next hset => rw [hset]
    · rfl

/-! ## Runs -/

/-- Every name has the query that the calls of its lineage make, and none of them fails. -/
def Descends (branches : Branches E) (past : History E) : Prop :=
  ∀ name, branches.get name = (lineage past name).foldl Query.after .empty ∧
    ∀ call ∈ lineage past name, call.error? = none

theorem Descends.advance {branches : Branches E} {past : History E} (h : branches.Descends past)
    (step : Step E) : (branches.advance step).value.1.Descends
      ((step, (branches.advance step).value.2) :: past) := by
  intro name
  rw [advance_value]
  cases step with
  | clear set =>
    simp only [lineage, get_set]
    split
    · exact ⟨rfl, fun call hcall => absurd hcall List.not_mem_nil⟩
    · exact h name
  | fork source target =>
    simp only [lineage, get_set, clone_eq]
    split
    · exact h source
    · exact h name
  | call set call =>
    cases he : call.error? with
    | some e =>
      -- The call has no part in the lineage, and the query it was made on is put back.
      simp only [he, lineage, get_set, after_of_error? he]
      split
      · next hset => exact hset ▸ h name
      · exact h name
    | none =>
      simp only [he, lineage, get_set]
      split
      · next hset =>
        obtain ⟨hquery, hcalls⟩ := h name
        subst hset
        rw [hquery, List.foldl_append, List.foldl_cons, List.foldl_nil]
        exact ⟨rfl, by simpa [or_imp, forall_and, he] using hcalls⟩
      · exact h name

theorem Descends.run {branches : Branches E} {past : History E} (h : branches.Descends past)
    (steps : List (Step E)) : (branches.run steps).value.1.Descends
      ((steps.zip (branches.run steps).value.2).reverse ++ past) := by
  induction steps generalizing branches past with
  | nil => exact h
  | cons step rest ih => simpa [Branches.run] using ih (h.advance step)

theorem length_run (branches : Branches E) (steps : List (Step E)) :
    (branches.run steps).value.2.length = steps.length := by
  induction steps generalizing branches with
  | nil => rfl
  | cons step rest ih => simp [Branches.run, ih]

/-- A name that no step of a run sets keeps its query. -/
theorem get_run_of_ne (branches : Branches E) {steps : List (Step E)} {name : String}
    (h : ∀ step ∈ steps, step.name ≠ name) :
    (branches.run steps).value.1.get name = branches.get name := by
  induction steps generalizing branches with
  | nil => rfl
  | cons step rest ih =>
    rw [List.forall_mem_cons] at h
    rw [← get_advance_of_ne branches h.1.symm]
    exact ih _ h.2

/-- Steps on other names leave a clone as it was taken. -/
theorem get_run_fork_target (branches : Branches E) (source : String) {target : String}
    {later : List (Step E)} (h : ∀ step ∈ later, step.name ≠ target) :
    (branches.run (.fork source target :: later)).value.1.get target =
      (branches.get source).clone := by
  refine (get_run_of_ne (branches.advance (.fork source target)).value.1 h).trans ?_
  rw [advance_value, get_set_self]

/-- Steps on a clone leave the query alone that it was taken from. -/
theorem get_run_fork_source (branches : Branches E) {source target : String} (hne : source ≠ target)
    {later : List (Step E)} (h : ∀ step ∈ later, step.name ≠ source) :
    (branches.run (.fork source target :: later)).value.1.get source = branches.get source :=
  get_run_of_ne branches (List.forall_mem_cons.mpr ⟨hne.symm, h⟩)

/-- **Branches do not interfere.** After any run each name has the query that the calls of its
lineage make when they are run again from the empty query, where none of them fails; its parts are
what these calls contribute. A step on one name leaves the other names alone, and a step that fails
leaves all of them alone. A clone has all parts of the query it was taken from, and neither of the
two is touched by later steps on the other. -/
theorem run_lineage (steps : List (Step E)) :
    ((empty : Branches E).run steps).value.2.length = steps.length ∧
      (∀ name,
        (((empty : Branches E).run steps).value.1.get name).SameAs
          ((Query.empty : Query E).run (lineage (history steps) name)).value.1 ∧
        (((empty : Branches E).run steps).value.1.get name).SameAs
          (made (lineage (history steps) name)) ∧
        ∀ outcome ∈ ((Query.empty : Query E).run (lineage (history steps) name)).value.2,
          outcome = none) ∧
      (∀ (branches : Branches E) (step : Step E) (name : String), name ≠ step.name →
        (branches.advance step).value.1.get name = branches.get name) ∧
      (∀ (branches : Branches E) (step : Step E) (e : FieldError),
        (branches.advance step).value.2 = some e →
        ∀ name, (branches.advance step).value.1.get name = branches.get name) ∧
      (∀ query : Query E, query.clone.SameAs query) ∧
      ∀ (branches : Branches E) (source target : String) (later : List (Step E)),
        ((∀ step ∈ later, step.name ≠ target) →
          (branches.run (.fork source target :: later)).value.1.get target =
            (branches.get source).clone) ∧
        (source ≠ target → (∀ step ∈ later, step.name ≠ source) →
          (branches.run (.fork source target :: later)).value.1.get source =
            branches.get source) := by
  refine ⟨length_run empty steps, fun name => ?_, fun branches step name h => ?_,
    fun branches step e h name => ?_, clone_sameAs, fun branches source target later => ?_⟩
  · have hstart : (empty : Branches E).Descends [] := fun name =>
      ⟨rfl, fun call hcall => absurd hcall List.not_mem_nil⟩
    obtain ⟨hquery, hcalls⟩ := hstart.run steps name
    rw [List.append_nil] at hquery hcalls
    refine ⟨?_, ?_, fun outcome houtcome => ?_⟩
    · rw [hquery, run_value]
      exact .refl _
    · rw [hquery, foldl_after_empty]
      exact .refl _
    · rw [run_value] at houtcome
      obtain ⟨call, hcall, rfl⟩ := List.mem_map.mp houtcome
      exact hcalls call hcall
  · exact get_advance_of_ne branches h
  · exact get_advance_of_error branches h name
  · exact ⟨get_run_fork_target branches source, fun hne h => get_run_fork_source branches hne h⟩

/-- Things of which no property is declared. -/
def blank : Entity where
  name := "blanks"
  searchable := false
  Field := Unit
  resolve _ := throw ⟨"blanks", "Colour"⟩

/-- The query `a` is cloned as `b` and `b` as `c`; a call on `a` fails, `b` goes on, and in the end
a clone of `c` takes the place of `a`. -/
def branching : List (Step blank) :=
  [.call "a" (.includeField (.raw "id")), .fork "a" "b", .call "b" (.limit 1), .fork "b" "c",
    .call "a" (.includeFields [.raw "name", .reference ()]), .call "b" (.sort (.raw "id")),
    .fork "c" "a"]

theorem branching_lineage :
    lineage (history branching) "a" = [.includeField (.raw "id"), .limit 1] ∧
      lineage (history branching) "b" =
        [.includeField (.raw "id"), .limit 1, .sort (.raw "id")] ∧
      (((empty : Branches blank).run branching).value.1.get "a").SameAs
        (made [.includeField (.raw "id"), .limit 1]) ∧
      (∀ (branches : Branches blank),
        (branches.advance (.fork "c" "a")).value.1.get "b" = branches.get "b") ∧
      (∀ (branches : Branches blank) (name : String),
        (branches.advance (.call "a" (.includeFields [.raw "name", .reference ()]))).value.1.get
          name = branches.get name) ∧
      ∀ (branches : Branches blank),
        (branches.run [.fork "a" "b", .call "a" (.limit 1)]).value.1.get "b" =
            (branches.get "a").clone ∧
          (branches.run [.fork "a" "b", .call "b" (.limit 1)]).value.1.get "a" =
            branches.get "a" := by
  have ha : lineage (history branching) "a" = [.includeField (.raw "id"), .limit 1] := rfl
  have hb : lineage (history branching) "b" =
    [.includeField (.raw "id"), .limit 1, .sort (.raw "id")] := rfl
  have herror : (Call.includeFields [.raw "name", .reference ()] : Call blank).error? =
    some ⟨"blanks", "Colour"⟩ := by decide
  obtain ⟨-, hqueries, hother, hfailed, -, hfork⟩ := run_lineage branching
  refine ⟨ha, hb, ha ▸ (hqueries "a").2.1, fun branches => hother branches _ "b" (by decide),
    fun branches => hfailed branches _ ⟨"blanks", "Colour"⟩ ?_, fun branches => ⟨?_, ?_⟩⟩
  · rw [advance_value]
    exact herror
  · exact (hfork branches "a" "b" [.call "a" (.limit 1)]).1 (by decide)
  · exact (hfork branches "a" "b" [.call "b" (.limit 1)]).2 (by decide) (by decide)

end Branches

end Apicalypse.Query

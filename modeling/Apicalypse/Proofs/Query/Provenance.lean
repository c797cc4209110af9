import Apicalypse.Catalogue.Game
import Apicalypse.Proofs.FieldPath
import Apicalypse.Proofs.Filter.Constructors
import Apicalypse.Proofs.Query.Run
import Mathlib.Data.List.Forall2

/-!
# How a field was named

Queries and filters keep the wire name of a field and nothing of the path that it comes from. So a
path may be replaced by its text, taken as one literal name, and so may a typed reference that
resolves to the path.

* `SameField`: arguments with the same wire name, or none for the same reason.
* `Call.Alike`: calls that differ in how they name their fields. `Alike.apply` is about one of them
  and `run_of_alike` about a run.
* `Interchangeable`: arguments that no step on a query tells apart.
* `Filter.SameOn`: paths that no filter tells apart.
* `provenance_invisible`: paths, their texts and typed references.
-/

namespace Apicalypse

/-! ## Wire names -/

namespace FieldArgument

variable {E : Entity}

/-- Both arguments have the same wire name, or none for the same reason. -/
def SameField (a b : FieldArgument E) : Prop := a.wireName = b.wireName

theorem wireName_path (p : FieldPath) : (path p : FieldArgument E).wireName = .ok p.render := rfl

theorem wireName_raw (name : String) : (raw name : FieldArgument E).wireName = .ok name :=
  congrArg Except.ok (FieldPath.render_name name)

theorem wireName_reference {field : E.Field} {p : FieldPath}
    (h : (E.resolve field).outcome = .ok p) : (reference field).wireName = .ok p.render := by
  rw [wireName, resolve, h]
  rfl

end FieldArgument

namespace Query

open FieldArgument

variable {E : Entity}

/-! ## Calls that name the same fields -/

namespace Call

/-- The calls are the same but for how they name their fields. -/
inductive Alike : Call E → Call E → Prop where
  | same (call : Call E) : Alike call call
  | includeField {a b : FieldArgument E} (h : SameField a b) :
    Alike (includeField a) (includeField b)
  | includeFields {as bs : List (FieldArgument E)} (h : List.Forall₂ SameField as bs) :
    Alike (includeFields as) (includeFields bs)
  | excludeField {a b : FieldArgument E} (h : SameField a b) :
    Alike (excludeField a) (excludeField b)
  | excludeFields {as bs : List (FieldArgument E)} (h : List.Forall₂ SameField as bs) :
    Alike (excludeFields as) (excludeFields bs)
  | sort {a b : FieldArgument E} (h : SameField a b) : Alike (sort a) (sort b)
  | sortBy {a b : FieldArgument E} (h : SameField a b) (order : SortOrder) :
    Alike (sortBy a order) (sortBy b order)

theorem mapM_wireName {as bs : List (FieldArgument E)} (h : List.Forall₂ SameField as bs) :
    as.mapM wireName = bs.mapM wireName := by
  induction h with
  | nil => rfl
  | cons hab _ ih => rw [List.mapM_cons, List.mapM_cons, hab, ih]

theorem Alike.names {c d : Call E} (h : Alike c d) : c.names = d.names := by
  cases h with
  | same => rfl
  | includeFields h | excludeFields h => exact mapM_wireName h
  | includeField h | excludeField h | sort h | sortBy h order =>
    exact mapM_wireName (.cons h .nil)

/-- What a call contributes depends on the names of its fields only. -/
theorem Alike.after {c d : Call E} (h : Alike c d) (query : Query E) :
    query.after c = query.after d := by
  have hnames := h.names
  cases h with
  | same => rfl
  | includeField h | includeFields h | excludeField h | excludeFields h =>
    simp [Query.after, added, slot, hnames]
  | sort h | sortBy h order =>
    have hname := h
    unfold SameField at hname
    simp [Query.after, added, slot, hname]

/-- **One step.** It makes the same query, or fails for the same reason. -/
theorem Alike.apply {c d : Call E} (h : Alike c d) (query : Query E) :
    (c.apply query).outcome = (d.apply query).outcome := by
  rw [apply_outcome, apply_outcome, h.names, h.after]

theorem Alike.error? {c d : Call E} (h : Alike c d) : c.error? = d.error? := by
  rw [Call.error?, Call.error?, h.names]

end Call

/-- **A run.** Calls that name the same fields one after the other leave the same query, and the
same became of each of them. -/
theorem run_of_alike {calls calls' : List (Call E)} (h : List.Forall₂ Call.Alike calls calls')
    (query : Query E) : (query.run calls).value = (query.run calls').value := by
  rw [run_value, run_value]
  induction h generalizing query with
  | nil => rfl
  | cons hcall _ ih =>
    obtain ⟨hquery, herrors⟩ := Prod.mk.inj (ih (query.after _))
    simp only [List.foldl_cons, List.map_cons, hcall.error?, herrors]
    rw [← hcall.after query, hquery]

/-! ## Arguments that stand for each other -/

/-- No step on a query tells the arguments apart, whichever fields are named beside them. -/
structure Interchangeable (a b : FieldArgument E) : Prop where
  sameField : SameField a b
  includeField (query : Query E) : (query.includeField a).outcome = (query.includeField b).outcome
  includeFields (query : Query E) (before after : List (FieldArgument E)) :
    (query.includeFields (before ++ a :: after)).outcome =
      (query.includeFields (before ++ b :: after)).outcome
  excludeField (query : Query E) : (query.excludeField a).outcome = (query.excludeField b).outcome
  excludeFields (query : Query E) (before after : List (FieldArgument E)) :
    (query.excludeFields (before ++ a :: after)).outcome =
      (query.excludeFields (before ++ b :: after)).outcome
  sort (query : Query E) :
    ((Call.sort a).apply query).outcome = ((Call.sort b).apply query).outcome
  sortBy (query : Query E) (order : SortOrder) :
    (query.sortBy a order).outcome = (query.sortBy b order).outcome

theorem forall₂_sameField_refl (fields : List (FieldArgument E)) :
    List.Forall₂ SameField fields fields :=
  List.forall₂_same.mpr fun _ _ => rfl

theorem interchangeable_of_sameField {a b : FieldArgument E} (h : SameField a b) :
    Interchangeable a b := by
  have hlists (before after : List (FieldArgument E)) :
      List.Forall₂ SameField (before ++ a :: after) (before ++ b :: after) :=
    List.rel_append (forall₂_sameField_refl before) (.cons h (forall₂_sameField_refl after))
  exact {
    sameField := h
    includeField := (Call.Alike.includeField h).apply
    includeFields := fun query before after =>
      (Call.Alike.includeFields (hlists before after)).apply query
    excludeField := (Call.Alike.excludeField h).apply
    excludeFields := fun query before after =>
      (Call.Alike.excludeFields (hlists before after)).apply query
    sort := (Call.Alike.sort h).apply
    sortBy := fun query order => (Call.Alike.sortBy h order).apply query }

end Query

/-! ## Filters -/

/-- No filter tells the paths apart. -/
structure Filter.SameOn (p q : FieldPath) : Prop where
  compare (operator : Operator) (value : Comparand) :
    Filter.compare p operator value = Filter.compare q operator value
  compareWithAll (operator : Operator) (values : List Comparand) :
    Filter.compareWithAll p operator values = Filter.compareWithAll q operator values
  ofPath (comparison : Comparison) : comparison.ofPath p = comparison.ofPath q

theorem Filter.sameOn_of_render_eq {p q : FieldPath} (h : p.render = q.render) :
    Filter.SameOn p q := by
  have hcompare (operator : Operator) (value : Comparand) :
      Filter.compare p operator value = Filter.compare q operator value := by
    rw [Filter.compare, Filter.compare, ofText, ofText, h]
  have hall (operator : Operator) (values : List Comparand) :
      Filter.compareWithAll p operator values = Filter.compareWithAll q operator values := by
    rw [Filter.compareWithAll, Filter.compareWithAll, ofText, ofText, h]
  refine ⟨hcompare, hall, fun comparison => ?_⟩
  cases comparison with
  | containsAll values | containsExclusively values | containsAtLeastOne values
  | containsNone values => exact hall _ values
  | isNull | isNotNull => exact hcompare _ .absent
  | equal value | notEqual value | startsWith value case | endsWith value case
  | contains value case => exact hcompare _ value
  | greaterThan value | greaterThanOrEqual value | lessThan value | lessThanOrEqual value =>
    exact hcompare _ value.val

namespace Query

/-- **The provenance of a field cannot be seen.** In every step on a query and in every filter, a
path gives the same as its text taken as one literal name, and so does a typed reference that
resolves to the path; whole runs of steps may exchange any of these for each other. Paths with the
same text stand for each other, although a nested path is not the same as the literal one. -/
theorem provenance_invisible (E : Entity) :
    (∀ p : FieldPath, Interchangeable (.path p : FieldArgument E) (.raw p.render) ∧
        Filter.SameOn p (.name p.render) ∧ (p = .name p.render ↔ p.isNested = false)) ∧
      (∀ (field : E.Field) (p : FieldPath), (E.resolve field).outcome = .ok p →
        Interchangeable (.reference field) (.raw p.render) ∧
          ∀ comparison : Comparison, (comparison.ofReference E field).outcome =
            .ok (comparison.ofPath (.name p.render))) ∧
      (∀ p q : FieldPath, p.render = q.render →
        Interchangeable (.path p : FieldArgument E) (.path q) ∧ Filter.SameOn p q) ∧
      ∀ (query : Query E) (calls calls' : List (Call E)), List.Forall₂ Call.Alike calls calls' →
        (query.run calls).value = (query.run calls').value := by
  refine ⟨fun p => ⟨?_, ?_, p.eq_name_render_iff⟩, fun field p h => ⟨?_, fun comparison => ?_⟩,
    fun p q h => ⟨?_, Filter.sameOn_of_render_eq h⟩, fun query calls calls' h =>
      run_of_alike h query⟩
  · exact interchangeable_of_sameField
      ((FieldArgument.wireName_path p).trans (FieldArgument.wireName_raw p.render).symm)
  · exact Filter.sameOn_of_render_eq (FieldPath.render_name p.render).symm
  · exact interchangeable_of_sameField
      ((FieldArgument.wireName_reference h).trans (FieldArgument.wireName_raw p.render).symm)
  · have hname : comparison.ofPath p = comparison.ofPath (.name p.render) :=
      (Filter.sameOn_of_render_eq (FieldPath.render_name p.render).symm).ofPath comparison
    rw [Comparison.ofReference_eq_map, Attempt.outcome_map, h, ← hname]
    rfl
  · exact interchangeable_of_sameField (congrArg Except.ok h)

/-- The date of a release, reached through the releases of a game. -/
def releasePath : FieldPath := .nested "release_dates" (.name "date")

/-- Steps with the path, and with the typed reference that resolves to it. -/
def releaseCalls : List (Call .game) :=
  [.includeFields [.path releasePath, .raw "name"], .sort (.reference (.releaseDate .date))]

/-- The same steps with literal names. -/
def literalCalls : List (Call .game) :=
  [.includeFields [.raw "release_dates.date", .raw "name"], .sort (.raw "release_dates.date")]

theorem releasePath_provenance_invisible :
    (Entity.game.resolve (.releaseDate .date)).outcome = .ok releasePath ∧
      releasePath ≠ .name "release_dates.date" ∧
      Interchangeable (.reference (.releaseDate .date) : FieldArgument .game)
        (.raw "release_dates.date") ∧
      Interchangeable (.path releasePath : FieldArgument .game)
        (.path (.name "release_dates.date")) ∧
      List.Forall₂ Call.Alike releaseCalls literalCalls ∧
      ((empty : Query .game).run releaseCalls).value =
        ((empty : Query .game).run literalCalls).value := by
  have hresolve : (Entity.game.resolve (.releaseDate .date)).outcome = .ok releasePath := rfl
  have hrender : releasePath.render = "release_dates.date" := by decide
  have hname : releasePath.render = (FieldPath.name "release_dates.date").render := by decide
  obtain ⟨hpath, hreference, hpaths, hruns⟩ := provenance_invisible .game
  have hliteral := (hpath releasePath).1.sameField
  have htyped := (hreference (.releaseDate .date) releasePath hresolve).1
  rw [hrender] at hliteral htyped
  have halike : List.Forall₂ Call.Alike releaseCalls literalCalls :=
    .cons (.includeFields (.cons hliteral (.cons rfl .nil))) (.cons (.sort htyped.sameField) .nil)
  exact ⟨hresolve, by decide, htyped, (hpaths _ _ hname).1, halike, hruns empty _ _ halike⟩

end Query

end Apicalypse

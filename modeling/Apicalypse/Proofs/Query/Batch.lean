import Apicalypse.Proofs.FirstFaulty
import Apicalypse.Proofs.Query.Run

/-!
# Several fields at once

A step that takes several fields is the step that takes one field, made for each of them in turn.

* `fieldNames_append`: the names of two lists of fields are found one list after the other.
* `Collector`: a place of a query that takes names in. `Collector.take_append` and
  `Collector.take_eq_foldlM` cut what it takes in after any of the fields, and after each.
* `Collector.take_eq_error_iff`: it fails as the first field that cannot be found.
* `Batches`, `fields_batch`: both kinds of steps, for the fields to ask for and those to leave out.
-/

namespace Apicalypse.Query

variable {E : Entity}

/-! ## Names -/

theorem fieldNames_append (xs ys : List (FieldArgument E)) :
    fieldNames (xs ++ ys) = do
      let names ← fieldNames xs
      return names ++ (← fieldNames ys) := by
  induction xs with
  | nil => simp [fieldNames]
  | cons field rest ih => simp [fieldNames, ih]

/-- The wire name of a field is missing for the reason for which the field is. -/
theorem wireName_eq_error_iff {field : FieldArgument E} {e : FieldError} :
    field.wireName = .error e ↔ field.resolve.outcome = .error e := by
  unfold FieldArgument.wireName
  cases field.resolve.outcome <;> simp [Functor.map, Except.map]

theorem exists_wireName_eq_ok_iff {field : FieldArgument E} :
    (∃ name, field.wireName = .ok name) ↔ ∃ path, field.resolve.outcome = .ok path := by
  unfold FieldArgument.wireName
  cases field.resolve.outcome <;> simp [Functor.map, Except.map]

/-! ## Taking names in -/

/-- A place of a query that names are put into, behind those that are there. -/
structure Collector (E : Entity) where
  put : Query E → List String → Query E
  put_nil (query : Query E) : put query [] = query
  put_append (query : Query E) (xs ys : List String) :
    put query (xs ++ ys) = put (put query xs) ys

namespace Collector

variable (collector : Collector E)

/-- Finds the names of all fields and then puts them in. -/
def take (query : Query E) (fields : List (FieldArgument E)) : Attempt (Query E) := do
  return collector.put query (← fieldNames fields)

theorem take_nil (query : Query E) : collector.take query [] = pure query := by
  simp [take, fieldNames, collector.put_nil]

theorem take_append (query : Query E) (xs ys : List (FieldArgument E)) :
    collector.take query (xs ++ ys) =
      collector.take query xs >>= fun next => collector.take next ys := by
  simp [take, fieldNames_append, collector.put_append]

theorem take_singleton (query : Query E) (field : FieldArgument E) :
    collector.take query [field] = do return collector.put query [← fieldName field] := by
  simp [take, fieldNames]

/-- The fields may as well be taken one by one. -/
theorem take_eq_foldlM (query : Query E) (fields : List (FieldArgument E)) :
    collector.take query fields =
      fields.foldlM (fun next field => collector.take next [field]) query := by
  induction fields generalizing query with
  | nil => exact collector.take_nil query
  | cons field rest ih =>
    rw [← List.singleton_append, take_append, List.singleton_append, List.foldlM_cons]
    exact congrArg (collector.take query [field] >>= ·) (funext ih)

theorem take_eq_error_iff {query : Query E} {fields : List (FieldArgument E)} {e : FieldError} :
    (collector.take query fields).outcome = .error e ↔
      FirstFaulty (fun field : FieldArgument E => ∃ path, field.resolve.outcome = .ok path)
        (fun field => field.resolve.outcome = .error e) fields := by
  have houtcome : (collector.take query fields).outcome =
      collector.put query <$> fields.mapM FieldArgument.wireName := by
    simp [take, fieldNames_outcome]
  have hnames : (collector.take query fields).outcome = .error e ↔
      fields.mapM FieldArgument.wireName = .error e := by
    rw [houtcome]
    cases fields.mapM FieldArgument.wireName <;> simp [Functor.map, Except.map]
  simp only [hnames, mapM_eq_error_iff, exists_wireName_eq_ok_iff, wireName_eq_error_iff]

end Collector

/-- The fields that a query asks for. -/
def included : Collector E where
  put query names := { query with includes := query.includes ++ names }
  put_nil query := by simp
  put_append query xs ys := by simp

/-- The fields that a query leaves out. -/
def excluded : Collector E where
  put query names := { query with excludes := query.excludes ++ names }
  put_nil query := by simp
  put_append query xs ys := by simp

/-! ## Steps -/

/-- A step with several fields is a step with one field, made for each of them until one fails. -/
structure Batches (single : Query E → FieldArgument E → Attempt (Query E))
    (batch : Query E → List (FieldArgument E) → Attempt (Query E)) : Prop where
  append : ∀ query xs ys, batch query (xs ++ ys) = batch query xs >>= fun next => batch next ys
  singles : ∀ query fields, batch query fields = fields.foldlM single query
  nil : ∀ query, batch query [] = pure query
  /-- The error is that of the first field that is not found, and those after it have no part in
  it. -/
  error : ∀ query fields e, (batch query fields).outcome = .error e ↔
    FirstFaulty (fun field : FieldArgument E => ∃ path, field.resolve.outcome = .ok path)
      (fun field => field.resolve.outcome = .error e) fields

theorem Collector.batches (collector : Collector E) :
    Batches (fun query field => collector.take query [field]) collector.take where
  append := collector.take_append
  singles := collector.take_eq_foldlM
  nil := collector.take_nil
  error _ _ _ := collector.take_eq_error_iff

/-- **Several fields are taken one by one.** Taking a list of fields, to ask for them or to leave
them out, is taking its first part and then, if that succeeds, the rest; it is taking the fields one
after the other up to the first that fails, whose error it gives; and an empty list changes
nothing. -/
theorem fields_batch (E : Entity) :
    Batches (E := E) includeField includeFields ∧ Batches (E := E) excludeField excludeFields := by
  have hinclude : (includeField : Query E → FieldArgument E → Attempt (Query E)) =
      fun query field => included.take query [field] := by
    funext query field
    rw [Collector.take_singleton]
    rfl
  have hexclude : (excludeField : Query E → FieldArgument E → Attempt (Query E)) =
      fun query field => excluded.take query [field] := by
    funext query field
    rw [Collector.take_singleton]
    rfl
  rw [hinclude, hexclude]
  exact ⟨included.batches, excluded.batches⟩

end Apicalypse.Query

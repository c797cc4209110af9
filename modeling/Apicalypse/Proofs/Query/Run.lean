import Apicalypse.Proofs.FieldPath
import Apicalypse.Proofs.Text.Decimal
import Apicalypse.Query.Call

/-!
# Runs of calls on a query

What one call does to a query, and from it what a run of calls leaves behind.

* `Call.names`: the wire names of the fields of a call, or the error of the first field that is
  not declared.
* `after`, `attempt_value`: one call appends to a list of names or replaces another part. A call
  that fails has nothing to append and nothing to replace.
* `run_value`, `foldl_after`: a run appends what its calls append, in order and with duplicates,
  and keeps the last of what they replace.
* `run_build`: the text of a run that starts from the empty query, clause by clause.
* `run_events`: a run records what the look-up of its fields records, and nothing else.
-/

namespace Apicalypse

/-- The wire name of a field: its path rendered. Only a typed reference can fail. -/
def FieldArgument.wireName {E : Entity} (field : FieldArgument E) : Except FieldError String :=
  FieldPath.render <$> field.resolve.outcome

namespace Query

variable {E : Entity}

theorem fieldName_outcome (field : FieldArgument E) :
    (fieldName field).outcome = field.wireName := by
  simp [fieldName, FieldArgument.wireName]

theorem fieldNames_outcome (fields : List (FieldArgument E)) :
    (fieldNames fields).outcome = fields.mapM FieldArgument.wireName := by
  induction fields with
  | nil => rfl
  | cons field rest ih => simp [fieldNames, List.mapM_cons, fieldName_outcome, ih]

/-! ## What a call contributes -/

namespace Call

/-- The fields that a call names. -/
@[simp] def fields : Call E → List (FieldArgument E)
  | includeField field | excludeField field | sort field | sortBy field _ => [field]
  | includeFields fields | excludeFields fields => fields
  | filter _ | limit _ | offset _ | search .. => []

/-- The wire names of the fields of a call, or the error of the first that is not declared. -/
def names (call : Call E) : Except FieldError (List String) :=
  call.fields.mapM FieldArgument.wireName

/-- The error of a call that fails. -/
def error? (call : Call E) : Option FieldError :=
  match call.names with
  | .ok _ => none
  | .error e => some e

/-- The names that a call appends to the list of a slot: all of them, or none when the call
fails or has to do with another slot. -/
def added (slot : Slot) (call : Call E) : List String :=
  if call.slot = slot then call.names.toOption.getD [] else []

/-- The sort that a call sets. -/
@[simp] def sorting? : Call E → Option Sorting
  | sort field => field.wireName.toOption.map (⟨·, .descending⟩)
  | sortBy field order => field.wireName.toOption.map (⟨·, order⟩)
  | _ => none

/-- The filter that a call sets. -/
@[simp] def filter? : Call E → Option Filter
  | filter f => some f
  | _ => none

/-- The limit that a call sets. -/
@[simp] def limit? : Call E → Option UInt64
  | limit n => some n
  | _ => none

/-- The offset that a call sets. -/
@[simp] def offset? : Call E → Option UInt64
  | offset n => some n
  | _ => none

/-- The search term that a call sets. -/
@[simp] def term? : Call E → Option String
  | search term _ => some term
  | _ => none

end Call

/-! ## One call -/

/-- The query after a call. -/
def after (query : Query E) (call : Call E) : Query E where
  includes := query.includes ++ call.added .includes
  excludes := query.excludes ++ call.added .excludes
  filter := call.filter?.or query.filter
  sort := call.sorting?.or query.sort
  search := call.term?.or query.search
  limit := call.limit?.or query.limit
  offset := call.offset?.or query.offset

/-- A call either makes its step or fails with its own error, whatever the query is. -/
theorem apply_outcome (query : Query E) (call : Call E) :
    (call.apply query).outcome = call.names.map fun _ => query.after call := by
  cases call with
  | includeField field | excludeField field | sort field | sortBy field order =>
    simp only [Call.apply, includeField, excludeField, sortBy, Attempt.outcome_bind,
      Attempt.outcome_pure, fieldName_outcome]
    cases h : field.wireName <;> simp [h, after, Call.added, Call.slot, Call.names] <;> rfl
  | includeFields fields | excludeFields fields =>
    simp only [Call.apply, includeFields, excludeFields, Attempt.outcome_bind,
      Attempt.outcome_pure, fieldNames_outcome]
    cases h : fields.mapM FieldArgument.wireName <;>
      simp [h, after, Call.added, Call.slot, Call.names] <;> rfl
  | filter f | limit n | offset n | search term searchable =>
    simp only [Call.apply, Attempt.outcome_pure]
    simp [withFilter, withLimit, withOffset, withSearch, after, Call.added, Call.slot, Call.names]
    rfl

/-- A call that fails has nothing to contribute. -/
theorem after_of_names_eq_error {call : Call E} {e : FieldError} (h : call.names = .error e)
    (query : Query E) : query.after call = query := by
  have hadded (slot : Slot) : call.added slot = [] := by simp [Call.added, h, Except.toOption]
  cases call with
  | includeField field | excludeField field | includeFields fields | excludeFields fields =>
    simp [after, hadded]
  | sort field | sortBy field order =>
    have hname : field.wireName.toOption = none := by
      cases hf : field.wireName with
      | ok name =>
        simp only [Call.names, Call.fields, List.mapM_cons, List.mapM_nil, hf] at h
        cases h
      | error e => rfl
    simp [after, hadded, hname]
  | filter f | limit n | offset n | search term searchable => cases h

theorem after_of_error? {call : Call E} {e : FieldError} (h : call.error? = some e)
    (query : Query E) : query.after call = query := by
  cases hn : call.names with
  | ok names => simp [Call.error?, hn] at h
  | error e' => exact after_of_names_eq_error hn query

/-- **One call.** The query afterwards and what became of the call. -/
theorem attempt_value (query : Query E) (call : Call E) :
    (query.attempt call).value = (query.after call, call.error?) := by
  have h : (call.apply query).run.value = _ := apply_outcome query call
  simp only [attempt, Logged.value_bind, h, Call.error?]
  cases hn : call.names with
  | ok names => rfl
  | error e => rw [after_of_names_eq_error hn]; rfl

/-! ## Runs -/

/-- The last of what the calls of a run set. -/
def latest? {α : Type} (set? : Call E → Option α) (calls : List (Call E)) : Option α :=
  (calls.filterMap set?).getLast?

@[simp] theorem latest?_nil {α : Type} (set? : Call E → Option α) : latest? set? [] = none := rfl

theorem latest?_cons {α : Type} (set? : Call E → Option α) (call : Call E)
    (rest : List (Call E)) : latest? set? (call :: rest) = (latest? set? rest).or (set? call) := by
  unfold latest?
  cases h : set? call with
  | none => simp [h]
  | some part => cases hr : (rest.filterMap set?).getLast? <;> simp [h, hr, List.getLast?_cons]

/-- A run makes the steps of its calls one after the other; what becomes of a call does not depend
on the calls before it. -/
theorem run_value (query : Query E) (calls : List (Call E)) :
    (query.run calls).value = (calls.foldl after query, calls.map Call.error?) := by
  induction calls generalizing query with
  | nil => rfl
  | cons call rest ih => simp [run, attempt_value, ih]

/-- **A run.** The lists of names grow in the order of the calls; of each other part the last one
set stays, or the one that was there before. -/
theorem foldl_after (query : Query E) (calls : List (Call E)) :
    calls.foldl after query = {
      includes := query.includes ++ calls.flatMap (Call.added .includes)
      excludes := query.excludes ++ calls.flatMap (Call.added .excludes)
      filter := (latest? Call.filter? calls).or query.filter
      sort := (latest? Call.sorting? calls).or query.sort
      search := (latest? Call.term? calls).or query.search
      limit := (latest? Call.limit? calls).or query.limit
      offset := (latest? Call.offset? calls).or query.offset } := by
  induction calls generalizing query with
  | nil => simp
  | cons call rest ih =>
    rw [List.foldl_cons, ih]
    simp [after, latest?_cons, List.append_assoc, Option.or_assoc]

/-! ## The text of a run -/

/-- A call records what the look-up of its fields records, whatever the query is. -/
theorem attempt_events (query : Query E) (call : Call E) :
    (query.attempt call).events = (fieldNames call.fields).events := by
  have happly : (call.apply query).events = (fieldNames call.fields).events := by
    cases call with
    | includeField field | excludeField field | sort field | sortBy field order =>
      simp only [Call.apply, includeField, excludeField, sortBy, Call.fields, fieldNames,
        Attempt.events_bind, Attempt.events_pure, Attempt.outcome_pure]
      cases (fieldName field).outcome <;> simp [pure, Except.pure]
    | includeFields fields | excludeFields fields =>
      simp only [Call.apply, includeFields, excludeFields, Call.fields, Attempt.events_bind,
        Attempt.events_pure]
      cases (fieldNames fields).outcome <;> simp
    | filter f | limit n | offset n | search term searchable => rfl
  rw [← happly, attempt, Logged.events_bind]
  cases (call.apply query).run.value <;> exact List.append_nil _

theorem run_events (query : Query E) (calls : List (Call E)) :
    (query.run calls).events = calls.flatMap fun call => (fieldNames call.fields).events := by
  induction calls generalizing query with
  | nil => rfl
  | cons call rest ih => simp [run, attempt_events, ih]

/-! ## Names that are given -/

theorem fieldName_raw (name : String) : fieldName (.raw name : FieldArgument E) = pure name := by
  show (pure (FieldPath.name name).render : Attempt String) = pure name
  rw [FieldPath.render_name]

/-- Names that are given resolve to themselves, with nothing recorded. -/
theorem fieldNames_raw (names : List String) :
    fieldNames (names.map (FieldArgument.raw (E := E))) = pure names := by
  induction names with
  | nil => rfl
  | cons name rest ih =>
    rw [List.map_cons, fieldNames, fieldName_raw, ih]
    rfl

end Query

end Apicalypse

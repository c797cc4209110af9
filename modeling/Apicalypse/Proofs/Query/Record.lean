import Apicalypse.Catalogue.Game
import Apicalypse.Proofs.Query.Run
import Apicalypse.Query.Branches
import Mathlib.Logic.Function.Basic

/-!
# The record of a session

What is recorded while filters and queries are made and queries are written out, and that nothing
depends on it.

* `Resolution`: how a field is found in tables; `Resolution.result`, `Resolution.refusal?`: what is
  found, and the first table that refuses. Neither of them knows of a record.
* `Entity.FoundBy`: the entities whose fields are found so.
* `Query.apply_outcome_eq_result`, `Query.events_fieldNames`: what a call gives and what it records.
* `Session.Action`, `Session.run`: steps on named queries of several entities, filters on typed
  references, and texts of queries, one after the other.
* `Session.result`, `Session.record`: what an action gives and what it has to record.
* `Session.run_recorded`: a run gives the results and records the records, in order.
-/

namespace Apicalypse

/-! ## Look-ups -/

/-- How a field is found: its path is given, or a table is asked for it, or it is reached through a
relation, which is found first. -/
inductive Resolution : Type 1 where
  | given (path : FieldPath)
  | lookup {κ : Type} [DecidableEq κ] [Describable κ] (table : FieldTable κ) (key : κ)
  | join (relation field : Resolution)

namespace Resolution

/-- The look-up together with its record. -/
def attempt : Resolution → Attempt FieldPath
  | given path => pure path
  | lookup table key => table.resolve key
  | join relation field => do return (← relation.attempt).join (← field.attempt)

/-- What is found. -/
def result : Resolution → Except FieldError FieldPath
  | given path => .ok path
  | lookup table key =>
    match table.name? key with
    | some name => .ok (.name name)
    | none => .error ⟨table.entity, (describe key).render⟩
  | join relation field => do return (← relation.result).join (← field.result)

/-- The first table that does not declare what it is asked for, and how that is shown. -/
def refusal? : Resolution → Option FieldError
  | given _ => none
  | lookup table key =>
    if table.contains key then none else some ⟨table.entity, (describe key).render⟩
  | join relation field => relation.refusal?.or field.refusal?

theorem attempt_outcome (resolution : Resolution) :
    resolution.attempt.outcome = resolution.result := by
  induction resolution with
  | given path => rfl
  | lookup table key =>
    unfold attempt result FieldTable.resolve
    cases table.name? key <;> rfl
  | join relation field ihr ihf => simp [attempt, result, ihr, ihf]

theorem refusal?_eq (resolution : Resolution) :
    resolution.refusal? = match resolution.result with
      | .ok _ => none
      | .error e => some e := by
  induction resolution with
  | given path => rfl
  | lookup table key =>
    unfold refusal? result FieldTable.contains
    cases table.name? key <;> rfl
  | join relation field ihr ihf =>
    rw [refusal?, result, ihr, ihf]
    cases relation.result <;> cases field.result <;> rfl

/-- One event for the table that refuses, and none for the others. -/
theorem attempt_events (resolution : Resolution) :
    resolution.attempt.events = (resolution.refusal?.map FieldTable.missing).toList := by
  induction resolution with
  | given path => rfl
  | lookup table key =>
    unfold attempt refusal? FieldTable.resolve FieldTable.contains
    cases table.name? key <;> rfl
  | join relation field ihr ihf =>
    simp only [attempt, refusal?, Attempt.events_bind, Attempt.events_pure, attempt_outcome, ihr,
      ihf, refusal?_eq]
    cases relation.result <;> cases field.result <;> simp

end Resolution

/-- Each field of the entity is found as its resolution says. -/
def Entity.FoundBy (E : Entity) (resolution : E.Field → Resolution) : Prop :=
  ∀ field, E.resolve field = (resolution field).attempt

/-! ## The entities of the catalogue -/

/-- Fields of platforms are found in one table. -/
def PlatformField.resolution (field : PlatformField) : Resolution := .lookup table field

/-- Fields of release dates are found in two tables. -/
def ReleaseDateField.resolution : ReleaseDateField → Resolution
  | platform field => .join (.lookup table platformId) field.resolution
  | field => .lookup table field

/-- Fields of games are found in three tables. -/
def GameField.resolution : GameField → Resolution
  | platform field => .join (.lookup table platforms) field.resolution
  | releaseDate field => .join (.lookup table releaseDates) field.resolution
  | field => .lookup table field

theorem Entity.foundBy_releaseDate : releaseDate.FoundBy ReleaseDateField.resolution := by
  intro field
  cases field <;> rfl

theorem Entity.foundBy_game : game.FoundBy GameField.resolution := by
  intro field
  cases field with
  | releaseDate field =>
    exact congrArg (fun found : Attempt FieldPath => do
      return (← GameField.table.resolve .releaseDates).join (← found))
      (foundBy_releaseDate field)
  | _ => rfl

/-! ## Calls -/

section Calls

variable {E : Entity} (resolution : E.Field → Resolution)

namespace FieldArgument

/-- The wire name of a field that is found. -/
def found : FieldArgument E → Except FieldError String
  | raw name => .ok name
  | path segments => .ok segments.render
  | reference field => FieldPath.render <$> (resolution field).result

/-- The first table that refuses a field. Only a typed reference is looked up. -/
def refusal? : FieldArgument E → Option FieldError
  | raw _ | path _ => none
  | reference field => (resolution field).refusal?

end FieldArgument

namespace Query

/-- The query after a call, or the error of the first field that is not found. -/
def result (query : Query E) : Call E → Except FieldError (Query E)
  | .includeField field => do
    return { query with includes := query.includes ++ [← field.found resolution] }
  | .includeFields fields => do
    return { query with includes := query.includes ++ (← fields.mapM (·.found resolution)) }
  | .excludeField field => do
    return { query with excludes := query.excludes ++ [← field.found resolution] }
  | .excludeFields fields => do
    return { query with excludes := query.excludes ++ (← fields.mapM (·.found resolution)) }
  | .sort field => do return { query with sort := some ⟨← field.found resolution, .descending⟩ }
  | .sortBy field order => do
    return { query with sort := some ⟨← field.found resolution, order⟩ }
  | .filter f => .ok { query with filter := some f }
  | .limit n => .ok { query with limit := some n }
  | .offset n => .ok { query with offset := some n }
  | .search term _ => .ok { query with search := some term }

end Query

variable {resolution}

namespace FieldArgument

theorem wireName_eq_found (h : E.FoundBy resolution) (field : FieldArgument E) :
    field.wireName = field.found resolution := by
  cases field with
  | raw name =>
    rw [← Query.fieldName_outcome, Query.fieldName_raw]
    rfl
  | path segments => rfl
  | reference field => rw [wireName, resolve, h, Resolution.attempt_outcome, found]

theorem refusal?_eq (field : FieldArgument E) :
    field.refusal? resolution = match field.found resolution with
      | .ok _ => none
      | .error e => some e := by
  cases field with
  | raw name | path segments => rfl
  | reference field =>
    rw [refusal?, found, Resolution.refusal?_eq]
    cases (resolution field).result <;> rfl

theorem events_resolve (h : E.FoundBy resolution) (field : FieldArgument E) :
    field.resolve.events = ((field.refusal? resolution).map FieldTable.missing).toList := by
  cases field with
  | raw name | path segments => rfl
  | reference field => rw [resolve, h, Resolution.attempt_events, refusal?]

end FieldArgument

namespace Query

/-- What a call gives has nothing to do with the record. -/
theorem apply_outcome_eq_result (h : E.FoundBy resolution) (query : Query E) (call : Call E) :
    (call.apply query).outcome = query.result resolution call := by
  have hfound : FieldArgument.wireName = FieldArgument.found resolution :=
    funext (FieldArgument.wireName_eq_found h)
  cases call with
  | includeField field | excludeField field | sort field | sortBy field order =>
    simp only [Call.apply, includeField, excludeField, sortBy, Attempt.outcome_bind,
      Attempt.outcome_pure, fieldName_outcome, hfound]
    rfl
  | includeFields fields | excludeFields fields =>
    simp only [Call.apply, includeFields, excludeFields, Attempt.outcome_bind,
      Attempt.outcome_pure, fieldNames_outcome, hfound]
    rfl
  | filter f | limit n | offset n | search term searchable => rfl

/-- A field that is refused is recorded by the table and then by the query. -/
theorem events_fieldName (h : E.FoundBy resolution) (field : FieldArgument E) :
    (fieldName field).events = match field.refusal? resolution with
      | none => []
      | some e => [FieldTable.missing e, rejected E e] := by
  have hfound : field.resolve.outcome.map FieldPath.render = field.found resolution :=
    field.wireName_eq_found h
  rw [fieldName, Attempt.events_onError, Attempt.events_map, Attempt.outcome_map,
    field.events_resolve h, field.refusal?_eq, ← hfound]
  cases field.resolve.outcome <;> rfl

/-- Of several fields only the first that is refused is recorded. -/
theorem events_fieldNames (h : E.FoundBy resolution) (fields : List (FieldArgument E)) :
    (fieldNames fields).events = match fields.findSome? (·.refusal? resolution) with
      | none => []
      | some e => [FieldTable.missing e, rejected E e] := by
  induction fields with
  | nil => rfl
  | cons field rest ih =>
    have hname := field.wireName_eq_found h
    rw [fieldNames, Attempt.events_bind, events_fieldName h, fieldName_outcome, hname,
      List.findSome?_cons, field.refusal?_eq]
    cases field.found resolution with
    | error e => rfl
    | ok name =>
      -- What comes after the names of the rest records nothing.
      simp only [Attempt.events_bind, Attempt.events_pure, ih, List.nil_append]
      cases (fieldNames rest).outcome <;> exact List.append_nil _

end Query

end Calls

/-! ## Sessions -/

namespace Session

variable {ι : Type} [DecidableEq ι] {catalogue : ι → Entity}

/-- Named queries of each entity of a catalogue. -/
abbrev Desk (catalogue : ι → Entity) : Type := ∀ i, Query.Branches (catalogue i)

/-- One thing to do at a desk. -/
inductive Action (catalogue : ι → Entity) where
  /-- A step on the named queries of an entity. -/
  | step (i : ι) (step : Query.Branches.Step (catalogue i))
  /-- A filter on a typed reference to a field of an entity. -/
  | filter (i : ι) (field : (catalogue i).Field) (make : FieldPath → Filter)
  /-- The text of a named query. -/
  | build (i : ι) (name : String)

/-- What comes of an action beside the queries. -/
inductive Answer where
  | step (failure : Option FieldError)
  | filter (made : Except FieldError Filter)
  | text (content : String)

/-- Does one thing. -/
def perform (desk : Desk catalogue) : Action catalogue → Logged (Desk catalogue × Answer)
  | .step i step => do
    let (branches, failure) ← (desk i).advance step
    return (Function.update desk i branches, .step failure)
  | .filter i field make => do return (desk, .filter (← (Filter.on (catalogue i) field make).run))
  | .build i name => do return (desk, .text (← ((desk i).get name).build))

/-- Does one thing after the other. -/
def run (desk : Desk catalogue) : List (Action catalogue) → Logged (Desk catalogue × List Answer)
  | [] => return (desk, [])
  | action :: rest => do
    let (next, answer) ← perform desk action
    let (last, answers) ← run next rest
    return (last, answer :: answers)

/-! ### Without a record -/

section Record

variable (resolution : ∀ i, (catalogue i).Field → Resolution)

/-- What comes of one action. -/
def result (desk : Desk catalogue) : Action catalogue → Desk catalogue × Answer
  | .step i (.clear name) => (Function.update desk i ((desk i).set name .empty), .step none)
  | .step i (.fork source target) =>
    (Function.update desk i ((desk i).set target ((desk i).get source)), .step none)
  | .step i (.call name call) =>
    match ((desk i).get name).result (resolution i) call with
    | .ok query => (Function.update desk i ((desk i).set name query), .step none)
    | .error e =>
      (Function.update desk i ((desk i).set name ((desk i).get name)), .step (some e))
  | .filter i field make => (desk, .filter (make <$> (resolution i field).result))
  | .build i name => (desk, .text ((desk i).get name).text)

/-- What comes of several actions. -/
def results (desk : Desk catalogue) : List (Action catalogue) → Desk catalogue × List Answer
  | [] => (desk, [])
  | action :: rest =>
    let (next, answer) := result resolution desk action
    let (last, answers) := results next rest
    (last, answer :: answers)

/-! ### The record -/

/-- What the table that refuses a reference has to say. -/
def missing (e : FieldError) : Event where
  level := .debug
  target := "apicalypse_core::types"
  message := "field reference missing from mapping table"
  fields := [("entity", .text e.entity), ("reference", .word e.reference)]

/-- What has to be recorded of one action: of a call the first field that is refused, by its table
and by the query; of a filter a field that is refused, by its table; and every text. -/
def record (desk : Desk catalogue) : Action catalogue → List Event
  | .step _ (.clear _) | .step _ (.fork ..) => []
  | .step i (.call _ call) =>
    match call.fields.findSome? (·.refusal? (resolution i)) with
    | none => []
    | some e => [missing e,
      { level := .debug
        target := "apicalypse_query::query"
        message := "query field rejected"
        fields := [("entity", .text (catalogue i).name), ("error", .word e.message)] }]
  | .filter i field _ => ((resolution i field).refusal?.map missing).toList
  | .build i name =>
    [{ level := .trace
       target := "apicalypse_query::query"
       message := "rendered query"
       fields := [
        ("entity", .text (catalogue i).name),
        ("length", .number ((desk i).get name).text.utf8ByteSize),
        ("has_filter", .boolean ((desk i).get name).filter.isSome)] }]

/-- What has to be recorded of several actions. -/
def records (desk : Desk catalogue) : List (Action catalogue) → List Event
  | [] => []
  | action :: rest =>
    record resolution desk action ++ records (result resolution desk action).1 rest

variable {resolution}

/-- **One action** gives its result, as if nothing were recorded. -/
theorem perform_value (h : ∀ i, (catalogue i).FoundBy (resolution i)) (desk : Desk catalogue)
    (action : Action catalogue) :
    (perform desk action).value = result resolution desk action := by
  cases action with
  | step i step =>
    cases step with
    | clear name | fork source target => rfl
    | call name call =>
      have hcall : (call.apply ((desk i).get name)).run.value = _ :=
        Query.apply_outcome_eq_result (h i) ((desk i).get name) call
      simp only [perform, Query.Branches.advance, Query.attempt, Logged.value_bind, hcall, result]
      cases ((desk i).get name).result (resolution i) call <;> rfl
  | filter i field make =>
    have hfilter : (Filter.on (catalogue i) field make).run.value =
        make <$> (resolution i field).result := by
      show (Filter.on (catalogue i) field make).outcome = _
      rw [Filter.on, Attempt.outcome_bind, h i, Resolution.attempt_outcome]
      rfl
    simp only [perform, Logged.value_bind, hfilter, result]
    rfl
  | build i name => rfl

/-- **One action** records what has to be recorded of it. -/
theorem perform_events (h : ∀ i, (catalogue i).FoundBy (resolution i)) (desk : Desk catalogue)
    (action : Action catalogue) :
    (perform desk action).events = record resolution desk action := by
  cases action with
  | step i step =>
    cases step with
    | clear name | fork source target => rfl
    | call name call =>
      simp only [perform, Query.Branches.advance, Logged.events_bind, Logged.events_pure,
        List.append_nil, Query.attempt_events, Query.events_fieldNames (h i), record]
      rfl
  | filter i field make =>
    have hevents : (Filter.on (catalogue i) field make).run.events =
        ((resolution i field).refusal?.map missing).toList := by
      show (Filter.on (catalogue i) field make).events = _
      rw [Filter.on, Attempt.events_bind, h i, Resolution.attempt_events]
      cases (resolution i field).attempt.outcome <;> exact List.append_nil _
    simp only [perform, Logged.events_bind, Logged.events_pure, List.append_nil, hevents, record]
  | build i name => rfl

/-- **The log is faithful and only watches.** When all fields are found in tables, a run gives the
results of its actions, none of which has to do with a record; and it records what has to be
recorded of each of them, in order, and nothing else. -/
theorem run_recorded (h : ∀ i, (catalogue i).FoundBy (resolution i)) (desk : Desk catalogue)
    (actions : List (Action catalogue)) :
    (run desk actions).value = results resolution desk actions ∧
      (run desk actions).events = records resolution desk actions := by
  induction actions generalizing desk with
  | nil => exact ⟨rfl, rfl⟩
  | cons action rest ih =>
    obtain ⟨hvalue, hevents⟩ := ih (result resolution desk action).1
    constructor
    · simp only [run, Logged.value_bind, perform_value h, hvalue, results]
      rfl
    · simp only [run, Logged.events_bind, Logged.events_pure, List.append_nil, perform_value h,
        perform_events h, hevents, records]

end Record

/-- A property of a shelf, or of the books on it. -/
inductive ShelfField where
  | books
  | colour
  | book (title : Bool)
  deriving DecidableEq

instance : Describable ShelfField where
  describe
    | .books => .word "Books"
    | .colour => .word "Colour"
    | .book title => .apply "Book" (.word (if title then "Title" else "Cover"))

/-- A shelf does not declare its colour. -/
def shelfTable : FieldTable ShelfField := .ofEntries "shelves" [(.books, "books")]

/-- A book does not declare its cover. -/
def bookTable : FieldTable ShelfField := .ofEntries "books" [(.book true, "title")]

/-- Fields of shelves are found in two tables. -/
def ShelfField.resolution : ShelfField → Resolution
  | .book title => .join (.lookup shelfTable .books) (.lookup bookTable (.book title))
  | field => .lookup shelfTable field

/-- Games, and shelves that cannot be searched. -/
def library : Bool → Entity
  | true => .game
  | false => ⟨"shelves", false, ShelfField, fun field => field.resolution.attempt⟩

/-- How the fields of both are found. -/
def libraryResolution : ∀ i, (library i).Field → Resolution
  | true => GameField.resolution
  | false => ShelfField.resolution

/-- A call that is stopped in the middle, a filter that fails, another one that does not, and two
texts. -/
def visit : List (Action library) := [
  .step false (.call "q" (.includeFields
    [.raw "id", .reference (.book false), .reference ShelfField.colour])),
  .filter false ShelfField.colour (Filter.equal · (.text "red")),
  .filter true (GameField.platform .name) (Filter.equal · (.text "Zürich")),
  .step true (.call "q" (.filter (.equal (.nested "platforms" (.name "name")) (.text "Zürich")))),
  .build true "q",
  .build false "q"]

theorem library_run_recorded :
    (∀ i, (library i).FoundBy (libraryResolution i)) ∧
      (run (fun _ => .empty : Desk library) visit).events = [
        missing ⟨"books", "Book(Cover)"⟩,
        Query.rejected (library false) ⟨"books", "Book(Cover)"⟩,
        missing ⟨"shelves", "Colour"⟩,
        { level := .trace
          target := "apicalypse_query::query"
          message := "rendered query"
          fields := [("entity", .text "games"), ("length", .number 31),
            ("has_filter", .boolean true)] },
        { level := .trace
          target := "apicalypse_query::query"
          message := "rendered query"
          fields := [("entity", .text "shelves"), ("length", .number 0),
            ("has_filter", .boolean false)] }] := by
  have h : ∀ i, (library i).FoundBy (libraryResolution i)
    | true => Entity.foundBy_game
    | false => fun _ => rfl
  refine ⟨h, (run_recorded h _ visit).2.trans ?_⟩
  decide +kernel

end Session

end Apicalypse

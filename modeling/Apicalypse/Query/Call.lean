import Apicalypse.Query

/-!
# Runs of steps

The steps on a query as data, so that a run of them is a list.

* `Query.Call.apply`: the step that a call makes.
* `Query.attempt`: a step after which there is a query in any case: the new one, or the old one
  beside the error.
* `Query.run`: the calls one after the other.
-/

namespace Apicalypse.Query

/-- The parts of a query that steps change. -/
inductive Slot where
  | includes
  | excludes
  | sort
  | filter
  | limit
  | offset
  | search
  deriving DecidableEq, Repr

/-- One step on a query. -/
inductive Call (E : Entity) where
  | includeField (field : FieldArgument E)
  | includeFields (fields : List (FieldArgument E))
  | excludeField (field : FieldArgument E)
  | excludeFields (fields : List (FieldArgument E))
  | sort (field : FieldArgument E)
  | sortBy (field : FieldArgument E) (order : SortOrder)
  | filter (filter : Filter)
  | limit (limit : UInt64)
  | offset (offset : UInt64)
  | search (term : String) (searchable : E.searchable = true)

variable {E : Entity}

namespace Call

/-- The one part that a call changes. -/
def slot : Call E → Slot
  | includeField _ | includeFields _ => .includes
  | excludeField _ | excludeFields _ => .excludes
  | sort _ | sortBy .. => .sort
  | filter _ => .filter
  | limit _ => .limit
  | offset _ => .offset
  | search .. => .search

/-- Makes the step. A sort without a direction is descending. -/
def apply : Call E → Query E → Attempt (Query E)
  | includeField field, query => query.includeField field
  | includeFields fields, query => query.includeFields fields
  | excludeField field, query => query.excludeField field
  | excludeFields fields, query => query.excludeFields fields
  | sort field, query => query.sortBy field default
  | sortBy field order, query => query.sortBy field order
  | filter f, query => pure (query.withFilter f)
  | limit n, query => pure (query.withLimit n)
  | offset n, query => pure (query.withOffset n)
  | search term searchable, query => pure (query.withSearch term searchable)

end Call

/-- The query after a call, and the error when the call failed and left the query as it was. -/
def attempt (query : Query E) (call : Call E) : Logged (Query E × Option FieldError) := do
  match ← (call.apply query).run with
  | .ok next => return (next, none)
  | .error e => return (query, some e)

/-- The query after several calls, and what became of each of them. -/
def run (query : Query E) : List (Call E) → Logged (Query E × List (Option FieldError))
  | [] => return (query, [])
  | call :: rest => do
    let (next, outcome) ← query.attempt call
    let (last, outcomes) ← next.run rest
    return (last, outcome :: outcomes)

end Apicalypse.Query

import Apicalypse.Filter
import Apicalypse.Sorting

/-!
# Queries

A query describes one request for the entries of an entity. It is a value: every step gives a new
query.

* `Query.build`: the text of a query, clause by clause in a fixed order.
* `Query.includeField` to `Query.withSearch`: the steps. Naming a field may fail, and then there is
  no new query.
* `Query.clone`, `Query.beq`: the copy of a query and the equality of queries, part by part.
-/

namespace Apicalypse

/-- A request for entries of an entity. -/
structure Query (E : Entity) where
  includes : List String
  excludes : List String
  filter : Option Filter
  sort : Option Sorting
  search : Option String
  limit : Option UInt64
  offset : Option UInt64
  deriving DecidableEq, Repr

namespace Query

variable {E : Entity}

/-- The query without any clause. -/
def empty : Query E := ⟨[], [], none, none, none, none, none⟩

instance : Inhabited (Query E) := ⟨empty⟩

/-! ## Fields -/

/-- The event of a field that a query could not take. -/
def rejected (E : Entity) (e : FieldError) : Event where
  level := .debug
  target := "apicalypse_query::query"
  message := "query field rejected"
  fields := [("entity", .text E.name), ("error", .word e.message)]

/-- The wire name of a field of the query's entity. -/
def fieldName (field : FieldArgument E) : Attempt String :=
  (FieldPath.render <$> field.resolve).onError (rejected E)

/-- The wire names of several fields, up to the first that fails. -/
def fieldNames : List (FieldArgument E) → Attempt (List String)
  | [] => pure []
  | field :: rest => do
    let name ← fieldName field
    return name :: (← fieldNames rest)

/-! ## Steps -/

/-- Asks for one more field. -/
def includeField (query : Query E) (field : FieldArgument E) : Attempt (Query E) := do
  return { query with includes := query.includes ++ [← fieldName field] }

/-- Asks for more fields; none is added when one of them fails. -/
def includeFields (query : Query E) (fields : List (FieldArgument E)) : Attempt (Query E) := do
  return { query with includes := query.includes ++ (← fieldNames fields) }

/-- Leaves out one more field. -/
def excludeField (query : Query E) (field : FieldArgument E) : Attempt (Query E) := do
  return { query with excludes := query.excludes ++ [← fieldName field] }

/-- Leaves out more fields; none is added when one of them fails. -/
def excludeFields (query : Query E) (fields : List (FieldArgument E)) : Attempt (Query E) := do
  return { query with excludes := query.excludes ++ (← fieldNames fields) }

/-- Sorts by a field, in place of any earlier sort. -/
def sortBy (query : Query E) (field : FieldArgument E) (order : SortOrder) :
    Attempt (Query E) := do
  return { query with sort := some ⟨← fieldName field, order⟩ }

/-- Sets the filter, in place of any earlier one. -/
def withFilter (query : Query E) (filter : Filter) : Query E := { query with filter := some filter }

/-- Sets the limit. What a tier allows is not checked here. -/
def withLimit (query : Query E) (limit : UInt64) : Query E := { query with limit := some limit }

/-- Sets the offset. -/
def withOffset (query : Query E) (offset : UInt64) : Query E :=
  { query with offset := some offset }

/-- Sets the search term, for entities that can be searched. -/
def withSearch (query : Query E) (term : String) (_ : E.searchable = true) : Query E :=
  { query with search := some term }

/-- There is no clause at all. -/
def isEmpty (query : Query E) : Bool :=
  query.includes.isEmpty && query.excludes.isEmpty && query.filter.isNone && query.sort.isNone
    && query.search.isNone && query.limit.isNone && query.offset.isNone

/-! ## Copying and comparing -/

/-- A copy of a query to branch off from, part by part. -/
protected def clone (query : Query E) : Query E where
  includes := query.includes
  excludes := query.excludes
  filter := query.filter
  sort := query.sort
  search := query.search
  limit := query.limit
  offset := query.offset

/-- All parts of two queries are the same. -/
protected def beq (q r : Query E) : Bool :=
  q.includes == r.includes && q.excludes == r.excludes && q.filter == r.filter && q.sort == r.sort
    && q.search == r.search && q.limit == r.limit && q.offset == r.offset

instance : BEq (Query E) := ⟨Query.beq⟩

/-! ## The text -/

/-- A clause: its keyword, a space, its content and a semicolon. -/
def clause (keyword content : String) : String := keyword ++ " " ++ content ++ ";"

/-- The clause of a list of names, which is left out when there are none. -/
def namesClause (keyword : String) (names : List String) : String :=
  if names.isEmpty then "" else clause keyword (Text.joined "," names)

/-- The clause of an optional part. -/
def partClause (keyword : String) (render : α → String) : Option α → String
  | none => ""
  | some part => clause keyword (render part)

/-- A 64-bit number in decimal. -/
def wordText (n : UInt64) : String := Text.decimal n.toNat

/-- The text of a query. The search term is written verbatim between double quotes. -/
def text (query : Query E) : String :=
  namesClause "fields" query.includes
    ++ namesClause "exclude" query.excludes
    ++ partClause "sort" Sorting.render query.sort
    ++ partClause "where" Filter.render query.filter
    ++ partClause "limit" wordText query.limit
    ++ partClause "offset" wordText query.offset
    ++ partClause "search" (fun term => "\"" ++ term ++ "\"") query.search

/-- The event of a query whose text was asked for. -/
def rendered (query : Query E) : Event where
  level := .trace
  target := "apicalypse_query::query"
  message := "rendered query"
  fields := [
    ("entity", .text E.name),
    ("length", .number query.text.utf8ByteSize),
    ("has_filter", .boolean query.filter.isSome)]

/-- The text of a query, recorded. -/
def build (query : Query E) : Logged String := do
  Logged.record query.rendered
  return query.text

end Query

end Apicalypse

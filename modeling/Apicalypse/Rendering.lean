import Apicalypse.CommandLine
import Apicalypse.Query.Call
import Apicalypse.Settings

/-!
# Rendering a command line

* `CommandLine.calls`: the steps on a query that a command line asks for.
* `CommandLine.render`: the text of the query. A search on an endpoint that has none is refused
  before anything else; a limit beyond the tier is only warned about.
-/

namespace Apicalypse

/-- Why a command line has no query. -/
inductive RenderError where
  | searchUnsupported (endpoint : Endpoint)
  deriving DecidableEq, Repr

namespace RenderError

/-- The error in words. -/
def message : RenderError → String
  | searchUnsupported endpoint =>
    "The " ++ endpoint.name ++ " endpoint does not support search"

end RenderError

namespace CommandLine

/-- The limit of a command line, or else the default one. -/
def effectiveLimit (line : CommandLine) (settings : Settings) : Option UInt64 :=
  line.limit <|> settings.defaultLimit

/-- The step that searches, for entities that can be searched. -/
def searchCalls (E : Entity) (term : String) : List (Query.Call E) :=
  if h : E.searchable = true then [.search term h] else []

/-- The steps that a command line asks for, with the given filter and limit. -/
def calls (E : Entity) (line : CommandLine) (filter : Option Filter) (limit : Option UInt64) :
    List (Query.Call E) :=
  [.includeFields (line.fields.map .raw), .excludeFields (line.exclude.map .raw)]
    ++ (line.sort.map fun sort => .sortBy (.raw sort.field) sort.order).toList
    ++ (filter.map .filter).toList
    ++ (limit.map .limit).toList
    ++ (line.offset.map .offset).toList
    ++ (line.search.map (searchCalls E)).getD []

/-- The event of a limit beyond the tier. -/
def limitWarning (settings : Settings) (limit : UInt64) : Event where
  level := .warn
  target := "apicalypse::render"
  message := "Limit exceeds what the configured tier allows"
  fields := [
    ("limit", .number limit.toNat),
    ("tier", .text settings.tier.name),
    ("max", .number settings.tier.maxLimit.toNat)]

/-- Warns of a limit beyond the tier. -/
def checkLimit (settings : Settings) : Option UInt64 → Logged Unit
  | none => pure ()
  | some limit =>
    if settings.exceedsTier limit then Logged.record (limitWarning settings limit) else pure ()

/-- The text of the query that a command line asks for. -/
def render (line : CommandLine) (filter : Option Filter) (settings : Settings) :
    Logged (Except RenderError String) := do
  let entity := line.endpoint.entity
  if line.search.isSome && !entity.searchable then
    return .error (.searchUnsupported line.endpoint)
  let limit := line.effectiveLimit settings
  checkLimit settings limit
  let (query, _) ← Query.empty.run (line.calls entity filter limit)
  return .ok (← query.build)

end CommandLine

end Apicalypse

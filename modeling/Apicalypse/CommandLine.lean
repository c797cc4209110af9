import Apicalypse.CommandLine.Endpoint
import Apicalypse.CommandLine.Word
import Apicalypse.Sorting
import Apicalypse.Text.Decimal

/-!
# The command line

* `CommandLine.parse`: the command line that words write. The first fault from the left counts.
* `UsageError`: the faults. Asking for help or for the version ends a run in the same way.
-/

namespace Apicalypse

/-- Why words are no command line to run. -/
inductive UsageError where
  | helpWanted
  | versionWanted
  | nothingGiven
  | endpointMissing
  | unknownArgument
  /-- A flag that takes no value has one. -/
  | excessValue
  /-- A value is missing, or is not one of those that are possible. -/
  | invalidValue
  /-- A parameter that takes one value occurs again. -/
  | repeated
  | badSort (reason : Sorting.ReadError)
  | badNumber (reason : Text.NumeralError)
  deriving DecidableEq, Repr

namespace UsageError

/-- Exit code of a run that ends in this way. -/
def exitCode : UsageError → Nat
  | helpWanted | versionWanted => 0
  | _ => 2

/-- What the reader of a value says about it. -/
def reason? : UsageError → Option String
  | badSort reason => some reason.message
  | badNumber reason => some reason.message
  | _ => none

end UsageError

/-- What a command line asks for. -/
structure CommandLine where
  endpoint : Endpoint
  fields : List String
  exclude : List String
  sort : Option Sorting
  whereFile : Option String
  search : Option String
  limit : Option UInt64
  offset : Option UInt64
  deriving DecidableEq, Repr

namespace CommandLine

/-- A command line whose endpoint may still be missing. -/
structure Draft where
  endpoint : Option Endpoint
  fields : List String
  exclude : List String
  sort : Option Sorting
  whereFile : Option String
  search : Option String
  limit : Option UInt64
  offset : Option UInt64
  deriving DecidableEq, Repr

namespace Draft

/-- Nothing is given yet. -/
def empty : Draft := ⟨none, [], [], none, none, none, none, none⟩

/-- The value of a parameter that may occur once. -/
def once (current : Option α) (value : Except UsageError α) : Except UsageError (Option α) :=
  if current.isSome then .error .repeated else some <$> value

/-- The name of a file, which must not be empty. -/
def fileName (value : String) : Except UsageError String :=
  if value.isEmpty then .error .invalidValue else .ok value

/-- A 64-bit number. -/
def number (value : String) : Except UsageError UInt64 :=
  (Text.readWord value).mapError .badNumber

/-- Takes in the value of a parameter. Lists of names are split at every comma. -/
def setParameter (draft : Draft) (value : String) : Parameter → Except UsageError Draft
  | .fields => return { draft with fields := draft.fields ++ Text.pieces ',' value }
  | .exclude => return { draft with exclude := draft.exclude ++ Text.pieces ',' value }
  | .sort => return { draft with
      sort := ← once draft.sort ((Sorting.parse value).mapError .badSort) }
  | .whereFile => return { draft with whereFile := ← once draft.whereFile (fileName value) }
  | .search => return { draft with search := ← once draft.search (.ok value) }
  | .limit => return { draft with limit := ← once draft.limit (number value) }
  | .offset => return { draft with offset := ← once draft.offset (number value) }

/-- Takes in an occurrence. -/
def add (draft : Draft) : Occurrence → Except UsageError Draft
  | .endpoint text =>
    match Endpoint.ofName? text with
    | some endpoint => .ok { draft with endpoint := some endpoint }
    | none => .error .invalidValue
  | .parameter _ none => .error .invalidValue
  | .parameter parameter (some value) => draft.setParameter value parameter

/-- Takes in occurrences from left to right. -/
def addAll (draft : Draft) : List Occurrence → Except UsageError Draft
  | [] => .ok draft
  | occurrence :: rest => do (← draft.add occurrence).addAll rest

/-- The command line, when the endpoint is known. -/
def finish (draft : Draft) : Except UsageError CommandLine :=
  match draft.endpoint with
  | none => .error .endpointMissing
  | some endpoint =>
    .ok ⟨endpoint, draft.fields, draft.exclude, draft.sort, draft.whereFile, draft.search,
      draft.limit, draft.offset⟩

end Draft

/-- The command line that words write. -/
def parse (words : List String) : Except UsageError CommandLine := do
  let scanned := scan words
  let draft ← Draft.empty.addAll scanned.occurrences
  match scanned.stop with
  | .flag .help => throw .helpWanted
  | .flag .version => throw .versionWanted
  | .flagWithValue => throw .excessValue
  | .unknown => throw .unknownArgument
  | .finished => if scanned.occurrences.isEmpty then throw .nothingGiven else draft.finish

end CommandLine

end Apicalypse

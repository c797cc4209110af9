import Apicalypse.FilterDocument
import Apicalypse.Libraries
import Apicalypse.Rendering

/-!
# The program

One run of the command line tool, as a function of its words and of what it can see around it. It
holds for any libraries to rely on.

* `Surroundings`: environment variables and files.
* `Program.shown`: which events are shown.
* `Program.run`: how a run ends and the events that are shown.
* `Ending.output`, `Ending.remarks`: what is written to the standard output, and to the error output
  after the events.
-/

namespace Apicalypse

/-! ## Surroundings -/

/-- Why a file cannot be read as text. -/
inductive FileFailure where
  | notFound
  | directory
  | notADirectory
  | nameTooLong
  | notText
  | other (reason : String)
  deriving DecidableEq, Repr

namespace FileFailure

/-- The failure in words. -/
def message : FileFailure → String
  | notFound => "No such file or directory (os error 2)"
  | directory => "Is a directory (os error 21)"
  | notADirectory => "Not a directory (os error 20)"
  | nameTooLong => "File name too long (os error 36)"
  | notText => "stream did not contain valid UTF-8"
  | other reason => reason

end FileFailure

/-- What a run can see around it. -/
structure Surroundings where
  environment : Environment
  /-- The content of the environment file, if there is one. -/
  environmentFile : Option (List UInt8)
  fileAt : String → Except FileFailure (List UInt8)

namespace Surroundings

/-- The variables with those of the environment file. -/
def loaded (around : Surroundings) (libraries : Libraries) : Except Panic Environment :=
  match around.environmentFile with
  | none => .ok around.environment
  | some bytes => libraries.loadFile around.environment bytes

/-- The text in a file. -/
def textAt (around : Surroundings) (path : String) : Except FileFailure String := do
  match String.fromUTF8? ⟨(← around.fileAt path).toArray⟩ with
  | some text => return text
  | none => throw .notText

end Surroundings

/-! ## Outcomes -/

/-- Why a run fails. -/
inductive RunError where
  | unreadable (path : String) (reason : FileFailure)
  | badDocument (path : String) (reason : DocumentError)
  | unrenderable (reason : RenderError)
  deriving DecidableEq, Repr

namespace RunError

/-- What failed. -/
def message : RunError → String
  | unreadable path _ => "Failed to read " ++ path
  | badDocument path _ => "Invalid filter document " ++ path
  | unrenderable reason => reason.message

/-- What made it fail, when that is known apart. -/
def cause? : RunError → Option String
  | unreadable _ reason => some reason.message
  | badDocument _ (.json _) => some "Invalid JSON"
  | badDocument _ reason => some reason.message
  | unrenderable _ => none

end RunError

/-- How a run ends. -/
inductive Ending where
  | usage (error : UsageError)
  | failure (error : RunError)
  | success (text : String)
  /-- The run breaks off before it has begun. -/
  | aborted (panic : Panic)
  deriving DecidableEq, Repr

namespace Program

/-- The name and the version of the program. -/
def version : String := "apicalypse 0.1.0"

/-- The explanation of the command line. -/
def help : String := "Render an Apicalypse query for an endpoint

Usage: apicalypse [OPTIONS] <ENDPOINT>

Arguments:
  <ENDPOINT>  Endpoint the query is meant for [possible values: games, platforms, release-dates]

Options:
      --fields <FIELDS>          Fields to return, comma separated
      --exclude <EXCLUDE>        Fields to leave out, comma separated
      --sort <SORT>              Sort as field[:asc|desc], descending by default
      --where-file <WHERE_FILE>  JSON filter document
      --search <SEARCH>          Search term (games and platforms only)
      --limit <LIMIT>            Maximum number of results; falls back to APICALYPSE_DEFAULT_LIMIT
      --offset <OFFSET>          Number of results to skip
  -h, --help                     Print help
  -V, --version                  Print version"

end Program

namespace Ending

/-- Exit code of the program. -/
def exitCode : Ending → Nat
  | usage error => error.exitCode
  | failure _ => 1
  | success _ => 0
  | aborted _ => 101

/-- What is written to the standard output. -/
def output : Ending → String
  | usage .helpWanted => Program.help ++ "\n"
  | usage .versionWanted => Program.version ++ "\n"
  | usage _ | failure _ | aborted _ => ""
  | success text => text ++ "\n"

/-- What is written to the error output about the end of a run, on a thread of the given name. -/
def remarks (thread : String) : Ending → List String
  | success _ => []
  | aborted panic => panic.report thread
  | failure error => ("Error: " ++ error.message) :: match error.cause? with
    | some cause => ["", "Caused by:", "    " ++ cause]
    | none => []
  | usage .helpWanted | usage .versionWanted => []
  | usage error => (error.reason?.map ("error: " ++ ·)).toList ++ [Program.help]

end Ending

/-! ## A run -/

namespace Program

/-- The event of settings that could not be used. -/
def settingsIgnored (problem : Settings.Problem) : Event where
  level := .warn
  target := "apicalypse"
  message := "Failed to load config from env: " ++ problem.message ++ ", using defaults"
  fields := []

/-- The event of a query that is ready. -/
def queryReady (endpoint : Endpoint) (text : String) : Event where
  level := .debug
  target := "apicalypse"
  message := "Rendered query"
  fields := [("endpoint", .word (describe endpoint).render), ("length", .number text.utf8ByteSize)]

/-- The settings of the environment, or the default ones when those are faulty. -/
def loadSettings (lookup : String → Option String) : Logged Settings := do
  match Settings.lookup lookup with
  | .ok settings => return settings
  | .error problem =>
    Logged.record (settingsIgnored problem)
    return default

/-- The filter in a file. -/
def readFilter (around : Surroundings) (path : String) : Except RunError Filter := do
  let text ← (around.textAt path).mapError (.unreadable path)
  (FilterDocument.parseFilter text).mapError (.badDocument path)

/-- The filter that a command line names a file for. -/
def readFilter? (around : Surroundings) : Option String → Except RunError (Option Filter)
  | none => .ok none
  | some path => some <$> readFilter around path

/-- The text of the query that a command line asks for. -/
def perform (around : Surroundings) (environment : Environment) (line : CommandLine) :
    Logged (Except RunError String) := do
  let settings ← loadSettings environment.get?
  match readFilter? around line.whereFile with
  | .error e => return .error e
  | .ok filter =>
    match ← line.render filter settings with
    | .error e => return .error (.unrenderable e)
    | .ok text =>
      Logged.record (queryReady line.endpoint text)
      return .ok text

/-- The name of the variable that says which events are shown. -/
def logKey : String := "RUST_LOG"

/-- The directives in force when the variable gives none. -/
def standardDirectives : String := "warn,apicalypse=info"

/-- Which events are shown. A text that is malformed is as good as none. -/
def shown (libraries : Libraries) : Option String → Except Panic (Event → Bool)
  | none => .ok (libraries.readFilterLossy standardDirectives)
  | some text =>
    match libraries.readFilter text with
    | .ok shows => .ok shows
    | .error .malformed => .ok (libraries.readFilterLossy standardDirectives)
    | .error (.panicked panic) => .error panic

/-- How a run ends that has not broken off. -/
def ending : Except RunError String → Ending
  | .error e => .failure e
  | .ok text => .success text

/-- A run with the given words: how it ends, and the events that are shown. -/
def run (libraries : Libraries) (around : Surroundings) (words : List String) : Logged Ending :=
  match CommandLine.parse words with
  | .error e => ⟨.usage e, []⟩
  | .ok line =>
    match shown libraries (around.environment.get? logKey) with
    | .error panic => ⟨.aborted panic, []⟩
    | .ok shows =>
      match around.loaded libraries with
      | .error panic => ⟨.aborted panic, []⟩
      | .ok environment =>
        let result := perform around environment line
        ⟨ending result.value, result.events.filter shows⟩

end Program

end Apicalypse

import Apicalypse.EnvironmentFile
import Apicalypse.Log.Directive

/-!
# What a run relies on

The program leaves two things to others: to read which events are to be shown, and to load a file of
variables. Both may break off, and the run with them.

* `Panic`: what is known of a run that breaks off; `Panic.report`: the lines that tell it.
* `Libraries`: what the program asks of others. `Libraries.ofSources` does it as `LogFilter` and
  `EnvironmentFile` do.
-/

namespace Apicalypse

/-- A run breaks off at a place in the code, for a reason. -/
structure Panic where
  place : String
  reason : String
  deriving DecidableEq, Repr

/-- What is written to the error output when the thread of the run breaks off. -/
def Panic.report (panic : Panic) (thread : String) : List String := [
  "",
  "thread 'main' (" ++ thread ++ ") panicked at " ++ panic.place ++ ":",
  panic.reason,
  "note: run with `RUST_BACKTRACE=1` environment variable to display a backtrace"]

/-- Why there is no filter of events for a text. -/
inductive FilterReadError where
  | malformed
  | panicked (panic : Panic)
  deriving DecidableEq, Repr

/-- What the program asks of others. -/
structure Libraries where
  /-- Which events a text of directives shows. -/
  readFilter : String → Except FilterReadError (Event → Bool)
  /-- The same with faulty directives passed over. -/
  readFilterLossy : String → Event → Bool
  /-- The variables with those of a file. -/
  loadFile : Environment → List UInt8 → Except Panic Environment

/-- What the places of the code at which a run may break off are called in a report. -/
structure Sources where
  /-- Where a part of a directive is taken. -/
  directive : DirectivePart → String
  /-- Where a variable is set. -/
  environment : String

namespace Libraries

/-- Reads directives with `LogFilter` and loads files with `EnvironmentFile`. -/
def ofSources (sources : Sources) : Libraries where
  readFilter text :=
    match LogFilter.read text with
    | .ok filter => .ok filter.shows
    | .error .malformed => .error .malformed
    | .error (.broken part reason) =>
      .error (.panicked ⟨sources.directive part, reason.message⟩)
  readFilterLossy text := (LogFilter.readLossy text).shows
  loadFile environment bytes :=
    (EnvironmentFile.load environment bytes).mapError fun assignment =>
      ⟨sources.environment, assignment.complaint⟩

end Libraries

end Apicalypse

import Apicalypse.Log.Line
import Apicalypse.Program

/-!
# The command line tool

Looks up what a run can see, and writes out what it gives.
-/

open Apicalypse

/-- The directories from the given one up to the root. -/
def ancestors (directory : String) : List String :=
  let parts := directory.splitOn "/"
  (List.range parts.length).map fun n => "/".intercalate (parts.take (parts.length - n))

/-- The bytes of a file. -/
def contentOf (path : String) : IO (Except FileFailure (List UInt8)) := do
  try
    return .ok (← IO.FS.readBinFile path).toList
  catch e =>
    match e with
    | .noFileOrDirectory .. => return .error .notFound
    | .inappropriateType .. =>
      let isFolder ← (do discard (IO.FS.realPath (path ++ "/.")); pure true) <|> pure false
      return .error (if isFolder then .directory else .notADirectory)
    | .invalidArgument .. => return .error .nameTooLong
    | e => return .error (.other (toString e))

/-- The environment file of the nearest directory that has one. -/
def environmentFileIn : List String → IO (Option (List UInt8))
  | [] => return none
  | directory :: rest => do
    match ← contentOf (directory ++ "/.env") with
    | .ok bytes => return some bytes
    | .error _ => environmentFileIn rest

/-- The values of variables. -/
def variablesOf (names : List String) : IO (List (String × String)) := do
  let values ← names.mapM fun name => return (← IO.getEnv name).map (name, ·)
  return values.filterMap id

/-- What a run with the given words can see. -/
def surroundings (words : List String) : IO Surroundings := do
  let environmentFile ← environmentFileIn (ancestors (← IO.currentDir).toString)
  let mentioned := ((environmentFile.bind EnvironmentFile.decode?).map
    EnvironmentFile.mentioned).getD []
  let known ← variablesOf
    (Program.logKey :: Settings.tierKey :: Settings.limitKey :: mentioned)
  let content ← match CommandLine.parse words with
    | .ok line => contentOf (line.whereFile.getD "")
    | .error _ => pure (.error .notFound)
  return {
    environment := ⟨known⟩
    environmentFile := environmentFile
    fileAt := fun _ => content }

/-- What the places of the code are called. -/
def sources : Sources := ⟨fun _ => "LogDirective.take", "Environment.define?"⟩

/-- The number of the thread, if the system tells it. -/
def threadNumber : IO String := do
  try
    return String.ofList ((← IO.FS.readFile "/proc/self/stat").toList.takeWhile Char.isDigit)
  catch _ =>
    return "0"

def main (words : List String) : IO UInt32 := do
  let outcome := Program.run (.ofSources sources) (← surroundings words) words
  for event in outcome.events do
    IO.eprintln event.line
  IO.print outcome.value.output
  for remark in outcome.value.remarks (← threadNumber) do
    IO.eprintln remark
  return UInt32.ofNat outcome.value.exitCode

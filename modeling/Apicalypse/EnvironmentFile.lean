import Apicalypse.Environment
import Apicalypse.EnvironmentFile.Line
import Apicalypse.Text.Quoted

/-!
# Environment files

A file of assignments that adds variables to the environment. A variable that is set already
keeps its value. A faulty line ends the reading, and what comes before it stays in force. An
assignment of a value that no variable can have breaks it off.

* `lines`: the bytes of a file, cut after every line break.
* `LineScan.run`: how far quotes and escapes carry a line over its break.
* `load`: the environment with the assignments of a file.
* `mentioned`: the variables that the values may refer to.
-/

namespace Apicalypse.EnvironmentFile

/-! ## Lines -/

/-- The bytes of a file, cut after every line break. -/
def lines : List UInt8 → List (List UInt8)
  | [] => []
  | byte :: rest =>
    if byte = 10 then [byte] :: lines rest
    else match lines rest with
      | [] => [[byte]]
      | line :: more => (byte :: line) :: more

/-- The bytes without a mark of the byte order. -/
def withoutMark : List UInt8 → List UInt8
  | 0xEF :: 0xBB :: 0xBF :: rest => rest
  | bytes => bytes

/-- The characters that bytes encode. -/
def decode? (bytes : List UInt8) : Option (List Char) :=
  (String.fromUTF8? ⟨bytes.toArray⟩).map String.toList

/-- What a line is in the middle of. -/
inductive LineScan where
  | complete
  | blank
  | escape
  | quoted (single : Bool)
  | quotedEscape (single : Bool)
  deriving DecidableEq, Repr

namespace LineScan

/-- What a character starts outside of quotes. -/
def start (c : Char) : LineScan :=
  if c = '\\' then escape
  else if c = '"' then quoted false
  else if c = '\'' then quoted true
  else complete

/-- What a line is in the middle of at its end, or the text before the comment that ends it. A
comment begins after a single blank. -/
def run (seen : List Char) : LineScan → List Char → LineScan ⊕ List Char
  | state, [] => .inl state
  | blank, c :: rest => if c = '#' then .inr seen.reverse else run (c :: seen) (start c) rest
  | escape, c :: rest => run (c :: seen) complete rest
  | complete, c :: rest =>
    if Text.isBlank c ∧ c ≠ '\n' ∧ c ≠ '\r' then run (c :: seen) blank rest
    else run (c :: seen) (start c) rest
  | quoted single, c :: rest =>
    if c = '\\' then run (c :: seen) (quotedEscape single) rest
    else if c = (if single then '\'' else '"') then run (c :: seen) complete rest
    else run (c :: seen) (quoted single) rest
  | quotedEscape single, c :: rest => run (c :: seen) (quoted single) rest

end LineScan

/-- A line without its break. -/
def withoutBreak (line : List Char) : List Char :=
  match line.reverse with
  | '\n' :: '\r' :: rest => rest.reverse
  | '\n' :: rest => rest.reverse
  | _ => line

/-! ## Loading -/

/-- Why a line cannot be used. -/
inductive LineFault where
  /-- It is no assignment. -/
  | malformed
  /-- No variable can have the value. -/
  | impossible (assignment : Assignment)
  deriving DecidableEq, Repr

/-- What is said about an assignment of a value that no variable can have. -/
def Assignment.complaint (assignment : Assignment) : String :=
  "failed to set environment variable `" ++ Text.quote assignment.name ++ "` to `"
    ++ Text.quote assignment.value ++ "`: file name contained an unexpected NUL byte"

/-- The environment with the assignment of a complete line. -/
def addLine (environment : Environment) (line : List Char) : Except LineFault Environment :=
  match Assignment.parse? (fun name => ((environment.get? name).getD "").toList) line with
  | none => .error .malformed
  | some none => .ok environment
  | some (some assignment) =>
    match environment.define? assignment.name assignment.value with
    | some environment => .ok environment
    | none => .error (.impossible assignment)

/-- Adds the assignments of the remaining lines, up to one that is impossible. `carried` is the text
of a line that goes on after its break, and `state` what it is in the middle of. -/
def addLines (environment : Environment) (carried : List Char) (state : LineScan) :
    List (List UInt8) → Except Assignment Environment
  | [] => .ok environment
  | bytes :: rest =>
    match decode? bytes with
    | none => .ok environment
    | some text =>
      let whole := carried ++ text
      if (Text.trimStart whole).head? = some '#' then addLines environment [] .complete rest
      else match LineScan.run [] state text with
        | .inl .complete =>
          match addLine environment (withoutBreak whole) with
          | .ok environment => addLines environment [] .complete rest
          | .error .malformed => .ok environment
          | .error (.impossible assignment) => .error assignment
        | .inr beforeComment =>
          match addLine environment (carried ++ beforeComment) with
          | .ok environment => addLines environment [] .complete rest
          | .error .malformed => .ok environment
          | .error (.impossible assignment) => .error assignment
        | .inl next => addLines environment whole next rest

/-- The environment with the assignments of a file, or the assignment that breaks the loading off. -/
def load (environment : Environment) (bytes : List UInt8) : Except Assignment Environment :=
  addLines environment [] .complete (lines (withoutMark bytes))

/-! ## Variables in values -/

/-- The name right after a dollar sign. -/
def nameAfterDollar : List Char → String
  | '\x7b' :: rest => String.ofList (rest.takeWhile (· ≠ '\x7d'))
  | rest => String.ofList (rest.takeWhile Text.isAlphanumeric)

/-- The names of the variables that a text may refer to. -/
def mentioned : List Char → List String
  | [] => []
  | '$' :: rest => nameAfterDollar rest :: mentioned rest
  | _ :: rest => mentioned rest

end Apicalypse.EnvironmentFile

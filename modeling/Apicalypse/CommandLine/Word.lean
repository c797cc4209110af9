import Apicalypse.Text.Split

/-!
# Words of a command line

* `Word.ofString`: what a word is by itself: a parameter, a flag, the separator after which every
  word is a value, or a value.
* `Occurrence`: a parameter or the endpoint as it is given.
* `scan`: the occurrences in a list of words, and what stops the scan.

A value given as a word of its own waits until the next occurrence shows that it is complete. A
word that nothing can be made of stops the scan at once, and then the waiting one is lost.
-/

namespace Apicalypse.CommandLine

/-! ## Single words -/

/-- The parameters that take a value. -/
inductive Parameter where
  | fields
  | exclude
  | sort
  | whereFile
  | search
  | limit
  | offset
  deriving DecidableEq, Repr

namespace Parameter

/-- All parameters. -/
def all : List Parameter := [fields, exclude, sort, whereFile, search, limit, offset]

/-- The name of a parameter, without its dashes. -/
def name : Parameter → String
  | fields => "fields"
  | exclude => "exclude"
  | sort => "sort"
  | whereFile => "where-file"
  | search => "search"
  | limit => "limit"
  | offset => "offset"

/-- The parameter of an exact name. -/
def ofName? (s : String) : Option Parameter := all.find? (·.name = s)

end Parameter

/-- The flags, which take no value and end the run. -/
inductive Flag where
  | help
  | version
  deriving DecidableEq, Repr

namespace Flag

/-- The flag of a long name. -/
def ofName? : String → Option Flag
  | "help" => some help
  | "version" => some version
  | _ => none

/-- The flag of a letter. -/
def ofLetter? : Char → Option Flag
  | 'h' => some help
  | 'V' => some version
  | _ => none

end Flag

/-- What a word is by itself. -/
inductive Word where
  /-- A parameter, with the value after an equals sign if there is one. -/
  | parameter (parameter : Parameter) (attached : Option String)
  | flag (flag : Flag)
  /-- A flag with a value, which flags do not take. -/
  | flagWithValue
  /-- The two dashes after which all words are values. -/
  | separator
  | value (text : String)
  /-- A word with a leading dash that means nothing. -/
  | unknown
  deriving DecidableEq, Repr

namespace Word

/-- The word after two dashes, with the value after the first equals sign if there is one. -/
def ofLong (name : String) (attached : Option String) : Word :=
  match Parameter.ofName? name, Flag.ofName? name with
  | some p, _ => .parameter p attached
  | none, some f => if attached.isSome then .flagWithValue else .flag f
  | none, none => .unknown

/-- What a word is. A dash alone is a value, and of several letters after one dash the first
decides. -/
def ofChars : List Char → Word
  | ['-', '-'] => .separator
  | '-' :: '-' :: rest =>
    match Text.splitFirst? '=' rest with
    | none => ofLong (String.ofList rest) none
    | some (name, content) => ofLong (String.ofList name) (some (String.ofList content))
  | '-' :: letter :: _ =>
    match Flag.ofLetter? letter with
    | some f => .flag f
    | none => .unknown
  | plain => .value (String.ofList plain)

/-- What a word is. -/
def ofString (s : String) : Word := ofChars s.toList

end Word

/-! ## Occurrences -/

/-- A parameter or the endpoint as it is given. -/
inductive Occurrence where
  | endpoint (text : String)
  | parameter (parameter : Parameter) (value : Option String)
  deriving DecidableEq, Repr

/-- What stops the scan. -/
inductive Stop where
  /-- There are no more words. -/
  | finished
  | flag (flag : Flag)
  | flagWithValue
  | unknown
  deriving DecidableEq, Repr

/-- The occurrences in a list of words, and what stopped the scan. -/
structure Scan where
  occurrences : List Occurrence
  stop : Stop
  deriving DecidableEq, Repr

namespace Scan

/-- Occurrences in front of those of a scan. -/
def after (earlier : List Occurrence) (scan : Scan) : Scan :=
  { scan with occurrences := earlier ++ scan.occurrences }

end Scan

/-- The last occurrence, as long as the next one has not shown that it is complete. -/
inductive Waiting where
  | nothing
  | complete (occurrence : Occurrence)
  /-- A parameter that the next word may give a value. -/
  | open (parameter : Parameter)
  deriving DecidableEq, Repr

namespace Waiting

/-- The occurrence as it stands. -/
def occurrences : Waiting → List Occurrence
  | nothing => []
  | complete occurrence => [occurrence]
  | .open parameter => [.parameter parameter none]

end Waiting

/-- Scans words that are all values. Only the endpoint is given as one. -/
def scanValues (waiting : Waiting) (endpointSeen : Bool) : List String → Scan
  | [] => ⟨waiting.occurrences, .finished⟩
  | word :: rest =>
    if endpointSeen then ⟨[], .unknown⟩
    else .after waiting.occurrences (scanValues (.complete (.endpoint word)) true rest)

/-- Scans words. -/
def scanWords (waiting : Waiting) (endpointSeen : Bool) : List String → Scan
  | [] => ⟨waiting.occurrences, .finished⟩
  | word :: rest =>
    match Word.ofString word with
    | .separator => scanValues waiting endpointSeen rest
    | .unknown => ⟨[], .unknown⟩
    | .flagWithValue => ⟨[], .flagWithValue⟩
    | .flag flag => ⟨waiting.occurrences, .flag flag⟩
    | .parameter p none => .after waiting.occurrences (scanWords (.open p) endpointSeen rest)
    | .parameter p (some value) =>
      .after (waiting.occurrences ++ [.parameter p (some value)])
        (scanWords .nothing endpointSeen rest)
    | .value text =>
      match waiting with
      | .open p => scanWords (.complete (.parameter p (some text))) endpointSeen rest
      | _ =>
        if endpointSeen then ⟨[], .unknown⟩
        else .after waiting.occurrences (scanWords (.complete (.endpoint text)) true rest)

/-- The occurrences in the words of a command line. -/
def scan (words : List String) : Scan := scanWords .nothing false words

end Apicalypse.CommandLine

import Apicalypse.Text.Alphanumeric
import Apicalypse.Text.Blank
import Apicalypse.Text.Hexadecimal

/-!
# Patterns

Which texts are patterns made of characters, classes, groups, alternatives and repetitions. A
pattern stands between braces, so a text in braces inside of it could not be completed, and an
opening brace by itself is refused.

* `Pattern.isWellFormed`: the text is a pattern.
* `Mode`: what the options of a group change. Characters are code points as long as no option
  makes them bytes. Of code points neither kinds nor cases nor word edges are known; of bytes only
  those of ASCII may be matched.
-/

namespace Apicalypse.Pattern

/-! ## Modes -/

/-- How the text of a group is read. -/
structure Mode where
  /-- Capital letters match small ones. -/
  foldsCase : Bool
  /-- Characters are code points rather than bytes. -/
  unicode : Bool
  /-- Blanks mean nothing, and `#` starts a comment. -/
  spaced : Bool
  deriving DecidableEq, Repr

namespace Mode

/-- The mode at the start of a pattern. -/
def standard : Mode := ⟨false, true, false⟩

/-- The mode after an option is switched on or off. The other options change nothing that makes
a text a pattern. -/
def switch (mode : Mode) (option : Char) (on : Bool) : Mode :=
  if option = 'i' then { mode with foldsCase := on }
  else if option = 'u' then { mode with unicode := on }
  else if option = 'x' then { mode with spaced := on }
  else mode

end Mode

/-- A text without the blanks and comments at its start. -/
def skipSpace (inComment : Bool) : List Char → List Char
  | [] => []
  | c :: rest =>
    if inComment then skipSpace (c ≠ '\n') rest
    else if Text.isBlank c then skipSpace false rest
    else if c = '#' then skipSpace true rest
    else c :: rest

/-- A text from the first character that means something. -/
def Mode.skip (mode : Mode) (cs : List Char) : List Char :=
  if mode.spaced then skipSpace false cs else cs

/-! ## Elements -/

/-- The smallest parts of a pattern. -/
inductive Element where
  /-- One character, which two hexadecimal digits may give as a byte. -/
  | character (c : Char) (asByte : Bool)
  /-- The digits, the blanks or the characters of words, or all others. -/
  | kind (negated : Bool)
  /-- A place where a word starts or ends, or where none does. -/
  | wordEdge
  /-- The start or the end of the text. -/
  | edge
  deriving DecidableEq, Repr

namespace Element

/-- The element may stand by itself. -/
def isAllowed (mode : Mode) : Element → Bool
  | character c asByte => if mode.unicode then !mode.foldsCase else !asByte || c.toNat < 0x80
  | kind negated => !mode.unicode && !negated
  | wordEdge => !mode.unicode
  | edge => true

/-- The element may stand in a class. -/
def isAllowedInClass (mode : Mode) : Element → Bool
  | character c _ => mode.unicode || c.toNat < 0x80
  | kind negated => !mode.unicode && !negated
  | wordEdge | edge => false

/-- The elements may be the ends of a range in a class. -/
def isRange (mode : Mode) : Element → Element → Bool
  | character first _, character last _ =>
    first ≤ last && (mode.unicode || last.toNat < 0x80)
  | _, _ => false

end Element

/-- Reads as many hexadecimal digits as are wanted. -/
def readHex (mode : Mode) (value : Nat) : Nat → List Char → Option (Nat × List Char)
  | 0, cs => some (value, cs)
  | wanted + 1, cs =>
    match mode.skip cs with
    | [] => none
    | c :: rest =>
      match Text.hexValue? c with
      | some digit => readHex mode (16 * value + digit) wanted rest
      | none => none

/-- The character of a code point. -/
def charOfCode? (code : Nat) : Option Char :=
  if code < 0xD800 ∨ (0xDFFF < code ∧ code < 0x110000) then some (Char.ofNat code) else none

/-- Reads a character that is given by its code point. -/
def readCodePoint (mode : Mode) (digits : Nat) (cs : List Char) :
    Option (Element × List Char) := do
  let (code, rest) ← readHex mode 0 digits cs
  return (.character (← charOfCode? code) (digits = 2), rest)

/-- The character that a letter after a backslash stands for. -/
def controlChar? : Char → Option Char
  | 'a' => some '\x07'
  | 'f' => some '\x0c'
  | 'n' => some '\n'
  | 'r' => some '\r'
  | 't' => some '\t'
  | 'v' => some '\x0b'
  | _ => none

/-- Reads an element after its backslash. -/
def readEscape (mode : Mode) : List Char → Option (Element × List Char)
  | [] => none
  | 'x' :: rest => readCodePoint mode 2 rest
  | 'u' :: rest => readCodePoint mode 4 rest
  | 'U' :: rest => readCodePoint mode 8 rest
  | c :: rest =>
    if c ∈ ['d', 's', 'w'] then some (.kind false, rest)
    else if c ∈ ['D', 'S', 'W'] then some (.kind true, rest)
    else if c ∈ ['b', 'B', '<', '>'] then some (.wordEdge, rest)
    else if c ∈ ['A', 'z'] then some (.edge, rest)
    else if c.toNat < 0x80 ∧ !c.isAlphanum then some (.character c false, rest)
    else (controlChar? c).map fun control => (.character control false, rest)

/-! ## Classes -/

/-- Reads an element of a class. -/
def readItem (mode : Mode) : List Char → Option (Element × List Char)
  | [] => none
  | '\\' :: rest => readEscape mode rest
  | c :: rest => some (.character c false, rest)

/-- Reads an element of a class, or a range of characters. A dash makes a range unless the class
ends after it or another dash follows. -/
def readRange (mode : Mode) (cs : List Char) : Option (List Char) := do
  let (first, rest) ← readItem mode cs
  let alone (rest : List Char) := if first.isAllowedInClass mode then some rest else none
  match mode.skip rest with
  | [] => none
  | '-' :: after =>
    match mode.skip after with
    | [] => none
    | ']' :: _ | '-' :: _ => alone ('-' :: after)
    | after =>
      let (last, rest) ← readItem mode after
      if first.isRange mode last then some rest else none
  | rest => alone rest

/-- The names of classes of ASCII characters. -/
def classNames : List String :=
  ["alnum", "alpha", "ascii", "blank", "cntrl", "digit", "graph", "lower", "print", "punct",
    "space", "upper", "word", "xdigit"]

/-- Reads the name of a class after an opening bracket, and whether it is negated. -/
def readClassName? : List Char → Option (Bool × List Char)
  | ':' :: rest =>
    let negated := rest.head? = some '^'
    let text := if negated then rest.tail else rest
    let name := String.ofList (text.takeWhile (· ≠ ':'))
    match text.dropWhile (· ≠ ':') with
    | ':' :: ']' :: after => if name ∈ classNames then some (negated, after) else none
    | _ => none
  | _ => none

/-- Reads the start of a class after its opening bracket: perhaps a sign that negates it, then
dashes, or a closing bracket that belongs to it. -/
def openClass (mode : Mode) (cs : List Char) : Option (List Char) :=
  let text := mode.skip cs
  let negated := text.head? = some '^'
  let text := if negated then mode.skip text.tail else text
  if negated ∧ !mode.unicode then none
  else match text with
    | ']' :: rest => some rest
    | _ => some (text.dropWhile (· = '-'))

/-- Reads a class up to its closing bracket. `depth` counts the classes around it, and as many
steps as characters are enough. -/
def readClass (mode : Mode) : (steps : Nat) → (depth : Nat) → List Char → Option (List Char)
  | 0, _, _ => none
  | steps + 1, depth, cs =>
    match mode.skip cs with
    | [] => none
    | '[' :: rest =>
      match readClassName? rest with
      | some (negated, rest) =>
        if negated && !mode.unicode then none else readClass mode steps depth rest
      | none => (openClass mode rest).bind (readClass mode steps (depth + 1))
    | ']' :: rest =>
      match depth with
      | 0 => some rest
      | depth + 1 => readClass mode steps depth rest
    | '&' :: '&' :: rest | '-' :: '-' :: rest | '~' :: '~' :: rest =>
      readClass mode steps depth rest
    | cs => (readRange mode cs).bind (readClass mode steps depth)

/-! ## Groups -/

/-- What an opening parenthesis starts. -/
inductive Opening where
  /-- Nothing: the options change the rest of the group that they stand in. -/
  | options (mode : Mode)
  | group (mode : Mode) (name : Option (List Char))
  deriving DecidableEq, Repr

/-- Reads options up to the sign that ends them. `seen` are the ones so far, the latest first;
those after a dash are switched off, and none is repeated. -/
def readOptions (mode : Mode) (seen : List Char) : List Char → Option (Opening × List Char)
  | [] => none
  | c :: rest =>
    if c = ')' then
      if seen.isEmpty ∨ seen.head? = some '-' then none else some (.options mode, rest)
    else if c = ':' then
      if seen.head? = some '-' then none else some (.group mode none, rest)
    else if c ∈ ['i', 'm', 's', 'U', 'u', 'R', 'x', '-'] ∧ c ∉ seen then
      readOptions (mode.switch c ('-' ∉ seen)) (c :: seen) rest
    else none

/-- The text may be the name of a group. -/
def isGroupName : List Char → Bool
  | [] => false
  | first :: rest =>
    (first = '_' || (Text.isAlphanumeric first && !first.isDigit)) &&
      rest.all fun c => c ∈ ['_', '.', '[', ']'] || Text.isAlphanumeric c

/-- Reads the name of a group and the sign that ends it. -/
def readGroupName (mode : Mode) (cs : List Char) : Option (Opening × List Char) :=
  let name := cs.takeWhile (· ≠ '>')
  match cs.dropWhile (· ≠ '>') with
  | [] => none
  | _ :: rest => if isGroupName name then some (.group mode (some name), rest) else none

/-- Reads what stands right after an opening parenthesis. -/
def readOpening (mode : Mode) (cs : List Char) : Option (Opening × List Char) :=
  match mode.skip cs with
  | '?' :: 'P' :: '<' :: rest | '?' :: '<' :: rest => readGroupName mode rest
  | '?' :: rest => readOptions mode [] rest
  | rest => some (.group mode none, rest)

/-! ## Patterns -/

/-- Where the reading of a pattern stands. -/
structure Place where
  mode : Mode
  /-- The modes outside of the open groups, the innermost group first. -/
  outside : List Mode
  /-- The names of groups so far. -/
  names : List (List Char)
  /-- Something that can be repeated stands just before. -/
  repeatable : Bool

namespace Place

/-- The place after an element that can be repeated. -/
def afterElement (place : Place) : Place := { place with repeatable := true }

/-- The place at the start of an alternative. -/
def afresh (place : Place) : Place := { place with repeatable := false }

/-- The place after an opening parenthesis; no two groups have the same name. -/
def enter? (place : Place) : Opening → Option Place
  | .options mode => some { place.afresh with mode := mode }
  | .group mode name =>
    if name.any (· ∈ place.names) then none
    else some ⟨mode, place.mode :: place.outside, name.toList ++ place.names, false⟩

/-- The place after a closing parenthesis. -/
def leave? (place : Place) : Option Place :=
  match place.outside with
  | [] => none
  | mode :: outside => some { place.afterElement with mode := mode, outside := outside }

end Place

/-- Reads on at a place to the end of the pattern. As many steps as characters are enough. -/
def run : (steps : Nat) → Place → List Char → Bool
  | 0, _, _ => false
  | steps + 1, place, cs =>
    match place.mode.skip cs with
    | [] => place.outside.isEmpty
    | '(' :: rest =>
      match readOpening place.mode rest with
      | none => false
      | some (opening, rest) =>
        match place.enter? opening with
        | none => false
        | some place => run steps place rest
    | ')' :: rest =>
      match place.leave? with
      | none => false
      | some place => run steps place rest
    | '|' :: rest => run steps place.afresh rest
    | '[' :: rest =>
      match (openClass place.mode rest).bind (readClass place.mode (rest.length + 1) 0) with
      | none => false
      | some rest =>
        !(place.mode.unicode && place.mode.foldsCase) && run steps place.afterElement rest
    | '?' :: rest | '*' :: rest | '+' :: rest => place.repeatable && run steps place rest
    | '\x7b' :: _ => false
    | '.' :: rest => place.mode.unicode && run steps place.afterElement rest
    | '^' :: rest | '$' :: rest => run steps place.afterElement rest
    | '\\' :: rest =>
      match readEscape place.mode rest with
      | none => false
      | some (element, rest) =>
        element.isAllowed place.mode && run steps place.afterElement rest
    | c :: rest =>
      (Element.character c false).isAllowed place.mode && run steps place.afterElement rest

/-- The text is a pattern. -/
def isWellFormed (cs : List Char) : Bool := run (cs.length + 1) ⟨.standard, [], [], false⟩ cs

end Apicalypse.Pattern

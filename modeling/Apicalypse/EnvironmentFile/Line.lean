import Apicalypse.Text.Alphanumeric
import Apicalypse.Text.Blank

/-!
# Assignments of an environment file

One line `NAME=value`, with an optional `export` in front.

* `Assignment.parse`: the assignment in a line, if there is one.
* `ValueScan.run`: the value, by a machine that takes one character at a time. Single quotes take
  everything literally; elsewhere a backslash escapes and a dollar sign names a variable. Outside
  of quotes a blank ends the value, and only a comment may follow.
-/

namespace Apicalypse.EnvironmentFile

/-- A name and its value. -/
structure Assignment where
  name : String
  value : String
  deriving DecidableEq, Repr

/-! ## Values -/

/-- What the scan of a value is in the middle of. `quoted` says that it is between double quotes,
and `name` is the name of a variable so far, in reverse. -/
inductive ValueScan where
  | plain (quoted : Bool)
  /-- Between single quotes. -/
  | literal
  | escape (quoted : Bool)
  | dollar (quoted : Bool) (name : List Char)
  | braces (quoted : Bool) (name : List Char)
  /-- After the end of the value. -/
  | ended
  deriving DecidableEq, Repr

namespace ValueScan

/-- The character that an escaped one stands for. -/
def escaped? : Char → Option Char
  | 'n' => some '\n'
  | c => if c ∈ ['\\', '\'', '"', '$', ' '] then some c else none

/-- The value in the rest of a line, or nothing when the line is faulty. -/
def run (lookup : String → List Char) : ValueScan → List Char → Option (List Char)
  | .plain quoted, [] => if quoted then none else some []
  | .literal, [] => none
  | .escape quoted, [] => if quoted then none else some []
  | .dollar quoted name, [] =>
    if quoted then none else some (lookup (String.ofList name.reverse))
  | .braces _ _, [] => none
  | .ended, [] => some []
  | .ended, c :: rest =>
    if c = ' ' ∨ c = '\t' then run lookup .ended rest
    else if c = '#' then some []
    else none
  | .escape quoted, c :: rest =>
    match escaped? c with
    | some meant => (meant :: ·) <$> run lookup (.plain quoted) rest
    | none => none
  | .literal, c :: rest =>
    if c = '\'' then run lookup (.plain false) rest
    else (c :: ·) <$> run lookup .literal rest
  | .dollar quoted name, c :: rest =>
    if Text.isAlphanumeric c then run lookup (.dollar quoted (c :: name)) rest
    else if c = '\x7b' ∧ name = [] then run lookup (.braces quoted []) rest
    else
      let value := lookup (String.ofList name.reverse)
      if c = '$' then (value ++ ·) <$> run lookup (.dollar quoted []) rest
      else (value ++ c :: ·) <$> run lookup (.plain quoted) rest
  | .braces quoted name, c :: rest =>
    if c = '\x7d' then
      (lookup (String.ofList name.reverse) ++ ·) <$> run lookup (.plain quoted) rest
    else run lookup (.braces quoted (c :: name)) rest
  | .plain quoted, c :: rest =>
    if c = '$' then run lookup (.dollar quoted []) rest
    else if c = '\\' then run lookup (.escape quoted) rest
    else if c = '"' then run lookup (.plain (!quoted)) rest
    else if quoted then (c :: ·) <$> run lookup (.plain true) rest
    else if c = '\'' then run lookup .literal rest
    else if c = ' ' ∨ c = '\t' then run lookup .ended rest
    else (c :: ·) <$> run lookup (.plain false) rest

end ValueScan

/-! ## Lines -/

/-- A character that a name may start with. -/
def startsName (c : Char) : Bool := c.isAlpha || c = '_'

/-- A character of a name. -/
def inName (c : Char) : Bool := c.isAlphanum || c = '_' || c = '.'

/-- The name at the start of a text, and the text after it and the blanks that follow it. -/
def readName? : List Char → Option (String × List Char)
  | [] => none
  | c :: rest =>
    if startsName c then
      some (String.ofList (c :: rest.takeWhile inName), Text.trimStart (rest.dropWhile inName))
    else none

/-- The text after an equals sign and the blanks that follow it. -/
def afterEquals? : List Char → Option (List Char)
  | '=' :: rest => some (Text.trimStart rest)
  | _ => none

/-- The name and the text of the value. A first name `export` may be followed by the name that is
meant. -/
def splitAssignment? (line : List Char) : Option (String × List Char) := do
  let (name, rest) ← readName? line
  match afterEquals? rest with
  | some value => return (name, value)
  | none =>
    if name = "export" then
      let (name, rest) ← readName? rest
      return (name, ← afterEquals? rest)
    else none

/-- Nothing but blanks, or a comment. -/
def isIdle : List Char → Bool
  | [] | '#' :: _ => true
  | _ => false

/-- The assignment in a line: nothing for a faulty line, and none for an idle one. -/
def Assignment.parse? (lookup : String → List Char) (line : List Char) :
    Option (Option Assignment) :=
  let text := Text.trim line
  if isIdle text then some none
  else do
    let (name, value) ← splitAssignment? text
    if isIdle value then return some ⟨name, ""⟩
    else return some ⟨name, String.ofList (← ValueScan.run lookup (.plain false) value)⟩

end Apicalypse.EnvironmentFile

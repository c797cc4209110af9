/-!
# Environments

Named texts around a run.

* `Environment.get?`: the text of a name. A variable is found by what it looks like written out,
  `name=value`, so a name that holds an equals sign may end inside of a value.
* `Environment.define?`: one more variable, unless its name is found already.
-/

namespace Apicalypse

/-- Variables with their values. -/
structure Environment where
  entries : List (String × String)
  deriving DecidableEq, Repr, Inhabited

namespace Environment

/-- A variable written out. -/
def written (entry : String × String) : List Char := entry.1.toList ++ '=' :: entry.2.toList

/-- Neither names nor values hold the null character. -/
def canHold (s : String) : Bool := s.toList.all (·.toNat ≠ 0)

/-- The value of a name, from the first variable that it fits. -/
def get? (environment : Environment) (name : String) : Option String :=
  if name = "" || !canHold name then none
  else environment.entries.findSome? fun entry =>
    ((name.toList ++ ['=']).isPrefixOf? (written entry)).map String.ofList

/-- The environment with one more variable, unless its name is found already. Nothing when the
value is one that no variable can have. -/
def define? (environment : Environment) (name value : String) : Option Environment :=
  match environment.get? name with
  | some _ => some environment
  | none => if canHold value then some ⟨environment.entries ++ [(name, value)]⟩ else none

end Environment

end Apicalypse

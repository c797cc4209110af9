import Apicalypse.Json.Enumeration
import Apicalypse.Text.Lowercase

/-!
# Operators

The closed set of operators of a filter. An operator fixes the sign between field and value, the
wildcards that a string match adds to its comparand and the brackets around a list.

* `Case.parse?`, `Case.json`: a case by its name, in capital or small letters, and in JSON.
* `Operator.name`, `Operator.ofName?`: the names of the operators; the name of a string match does
  not say its case.
* `Operator.sign`, `Operator.decorate`, `Operator.wrap`: the parts of the clause text.
-/

namespace Apicalypse

/-! ## Case of a string match -/

/-- Whether a string match tells capital from small letters. -/
inductive Case where
  | sensitive
  | insensitive
  deriving DecidableEq, Repr

namespace Case

instance : Inhabited Case := ⟨sensitive⟩

/-- The name of a case. -/
def name : Case → String
  | sensitive => "sensitive"
  | insensitive => "insensitive"

/-- The case of a name in any mixture of capital and small letters. -/
def parse? (s : String) : Option Case :=
  match Text.lowercase s with
  | "sensitive" => some sensitive
  | "insensitive" => some insensitive
  | _ => none

/-- The cases in JSON. -/
def json : Json.Enumeration Case where
  values := [sensitive, insensitive]
  style := .snakeCase
  identifier
    | sensitive => "Sensitive"
    | insensitive => "Insensitive"
  aliases _ := []

end Case

/-! ## Operators -/

/-- An operator of a filter. -/
inductive Operator where
  | equal
  | notEqual
  | greaterThan
  | greaterThanOrEqual
  | lessThan
  | lessThanOrEqual
  | startsWith (case : Case)
  | endsWith (case : Case)
  | contains (case : Case)
  | containsAll
  | containsExclusively
  | containsAtLeastOne
  | containsNone
  | and
  | or
  deriving DecidableEq, Repr

namespace Operator

/-- The name of an operator. -/
def name : Operator → String
  | equal => "equal"
  | notEqual => "not_equal"
  | greaterThan => "greater_than"
  | greaterThanOrEqual => "greater_than_or_equal"
  | lessThan => "less_than"
  | lessThanOrEqual => "less_than_or_equal"
  | startsWith _ => "starts_with"
  | endsWith _ => "ends_with"
  | contains _ => "contains"
  | containsAll => "contains_all"
  | containsExclusively => "contains_exclusively"
  | containsAtLeastOne => "contains_at_least_one"
  | containsNone => "contains_none"
  | and => "and"
  | or => "or"

/-- The operator of a name. The case is that of a string match and unused by the others. -/
def ofName? (name : String) (case : Case) : Option Operator :=
  match name with
  | "equal" => some equal
  | "not_equal" => some notEqual
  | "greater_than" => some greaterThan
  | "greater_than_or_equal" => some greaterThanOrEqual
  | "less_than" => some lessThan
  | "less_than_or_equal" => some lessThanOrEqual
  | "starts_with" => some (startsWith case)
  | "ends_with" => some (endsWith case)
  | "contains" => some (contains case)
  | "contains_all" => some containsAll
  | "contains_exclusively" => some containsExclusively
  | "contains_at_least_one" => some containsAtLeastOne
  | "contains_none" => some containsNone
  | "and" => some and
  | "or" => some or
  | _ => none

/-- The case of a string match. -/
def case? : Operator → Option Case
  | startsWith case | endsWith case | contains case => some case
  | _ => none

/-- The sign between field and value. -/
def sign : Operator → String
  | equal => "="
  | notEqual => "!="
  | greaterThan => ">"
  | greaterThanOrEqual => ">="
  | lessThan => "<"
  | lessThanOrEqual => "<="
  | startsWith .sensitive | endsWith .sensitive | contains .sensitive => "="
  | startsWith .insensitive | endsWith .insensitive | contains .insensitive => "~"
  | containsAll | containsExclusively | containsAtLeastOne => "="
  | containsNone => "!="
  | and => "&"
  | or => "|"

/-- A comparand with the wildcards of a string match. -/
def decorate : Operator → String → String
  | startsWith _, text => text ++ "*"
  | endsWith _, text => "*" ++ text
  | contains _, text => "*" ++ text ++ "*"
  | _, text => text

/-- A value between the brackets of a list. -/
def wrap : Operator → String → String
  | containsAll, text => "[" ++ text ++ "]"
  | containsExclusively, text => "\x7b" ++ text ++ "\x7d"
  | containsAtLeastOne, text | containsNone, text => "(" ++ text ++ ")"
  | _, text => text

/-! ## Kinds of operators -/

/-- Compares by order. -/
def isOrdering : Operator → Bool
  | greaterThan | greaterThanOrEqual | lessThan | lessThanOrEqual => true
  | _ => false

/-- Matches a pattern. -/
def isStringMatch : Operator → Bool
  | startsWith _ | endsWith _ | contains _ => true
  | _ => false

/-- Compares with a list of values. -/
def isMembership : Operator → Bool
  | containsAll | containsExclusively | containsAtLeastOne | containsNone => true
  | _ => false

/-- Joins two filters. -/
def isLogical : Operator → Bool
  | and | or => true
  | _ => false

end Operator

end Apicalypse

import Apicalypse.Comparand
import Apicalypse.Entity
import Apicalypse.Operator

/-!
# Filters

A filter is one predicate `<field> <sign> <value>`. Two filters are joined at the level of their
texts: the left one becomes the field and the right one the value, and no parentheses are added.

* `Filter.compare`, `Filter.compareWithAll`: a field against one value or against a list.
* `Filter.equal` to `Filter.isNotNull`: the same with the operator fixed.
* `Filter.join`: two filters under a connective, also written `&&&` and `|||`.
* `Filter.on`: a filter on a typed field reference, which may fail to resolve.
* `FilterTree`: filters under connectives; `leaves` and `connectives` list both from left to right.
-/

namespace Apicalypse

/-- A predicate on the entries that a query returns. -/
structure Filter where
  /-- The rendered path, or the text of the left one of two joined filters. -/
  field : String
  operator : Operator
  /-- The decorated comparand, or the text of the right one of two joined filters. -/
  value : String
  deriving DecidableEq, Repr

/-- How two filters are joined. -/
inductive Connective where
  | and
  | or
  deriving DecidableEq, Repr

namespace Connective

/-- The operator of a connective. -/
def operator : Connective → Operator
  | and => .and
  | or => .or

/-- The name of a connective. -/
def name : Connective → String
  | and => "and"
  | or => "or"

end Connective

namespace Filter

/-! ## Rendering -/

/-- The text of the clause. -/
def render (filter : Filter) : String :=
  filter.field ++ " " ++ filter.operator.sign ++ " " ++ filter.operator.wrap filter.value

/-- The filter joins two others. -/
def isCompound (filter : Filter) : Bool := filter.operator.isLogical

/-! ## One field against values -/

/-- A field against a text. The wildcards of a string match are added here and nowhere else. -/
def ofText (path : FieldPath) (operator : Operator) (text : String) : Filter :=
  ⟨path.render, operator, operator.decorate text⟩

/-- A field against a value. -/
def compare (path : FieldPath) (operator : Operator) (value : Comparand) : Filter :=
  ofText path operator value.render

/-- A field against a list of values. -/
def compareWithAll (path : FieldPath) (operator : Operator) (values : List Comparand) : Filter :=
  ofText path operator (joinComparands values)

variable (path : FieldPath)

def equal (value : Comparand) : Filter := compare path .equal value

def notEqual (value : Comparand) : Filter := compare path .notEqual value

def greaterThan (value : NumericComparand) : Filter := compare path .greaterThan value.val

def greaterThanOrEqual (value : NumericComparand) : Filter :=
  compare path .greaterThanOrEqual value.val

def lessThan (value : NumericComparand) : Filter := compare path .lessThan value.val

def lessThanOrEqual (value : NumericComparand) : Filter := compare path .lessThanOrEqual value.val

def startsWith (value : Comparand) (case : Case) : Filter := compare path (.startsWith case) value

def endsWith (value : Comparand) (case : Case) : Filter := compare path (.endsWith case) value

def contains (value : Comparand) (case : Case) : Filter := compare path (.contains case) value

def containsAll (values : List Comparand) : Filter := compareWithAll path .containsAll values

def containsExclusively (values : List Comparand) : Filter :=
  compareWithAll path .containsExclusively values

def containsAtLeastOne (values : List Comparand) : Filter :=
  compareWithAll path .containsAtLeastOne values

def containsNone (values : List Comparand) : Filter := compareWithAll path .containsNone values

def isNull : Filter := compare path .equal .absent

def isNotNull : Filter := compare path .notEqual .absent

/-! ## Joining -/

/-- Two filters under a connective. -/
def join (connective : Connective) (left right : Filter) : Filter :=
  ⟨left.render, connective.operator, right.render⟩

instance : AndOp Filter := ⟨join .and⟩

instance : OrOp Filter := ⟨join .or⟩

/-! ## Typed references -/

/-- A filter on a field of an entity, made once the field is resolved. -/
def on (E : Entity) (field : E.Field) (make : FieldPath → Filter) : Attempt Filter := do
  return make (← E.resolve field)

end Filter

/-! ## Trees -/

/-- Filters under connectives. -/
inductive FilterTree where
  | leaf (filter : Filter)
  | node (connective : Connective) (left right : FilterTree)
  deriving DecidableEq, Repr

namespace FilterTree

/-- The filter that the connectives make. -/
def eval : FilterTree → Filter
  | leaf filter => filter
  | node connective left right => .join connective left.eval right.eval

/-- The filters at the leaves, from left to right. -/
def leaves : FilterTree → List Filter
  | leaf filter => [filter]
  | node _ left right => left.leaves ++ right.leaves

/-- The connectives between the leaves, from left to right. -/
def connectives : FilterTree → List Connective
  | leaf _ => []
  | node connective left right => left.connectives ++ connective :: right.connectives

end FilterTree

end Apicalypse

import Apicalypse.Filter

/-!
# Comparisons

The filters that compare one field, with the field given as a path or as a typed reference.

* `FieldFilter.equal` to `FieldFilter.isNotNull`: the comparisons of a typed reference. Each of them
  fails when the reference does not resolve, whatever it is compared with.
* `Comparison`: a comparison whose field is left open; `ofPath` and `ofReference` put the field in.
-/

namespace Apicalypse

/-! ## Typed references -/

namespace FieldFilter

variable (E : Entity) (field : E.Field)

def equal (value : Comparand) : Attempt Filter := Filter.on E field (.equal · value)

def notEqual (value : Comparand) : Attempt Filter := Filter.on E field (.notEqual · value)

def greaterThan (value : NumericComparand) : Attempt Filter :=
  Filter.on E field (.greaterThan · value)

def greaterThanOrEqual (value : NumericComparand) : Attempt Filter :=
  Filter.on E field (.greaterThanOrEqual · value)

def lessThan (value : NumericComparand) : Attempt Filter := Filter.on E field (.lessThan · value)

def lessThanOrEqual (value : NumericComparand) : Attempt Filter :=
  Filter.on E field (.lessThanOrEqual · value)

def startsWith (value : Comparand) (case : Case) : Attempt Filter :=
  Filter.on E field (.startsWith · value case)

def endsWith (value : Comparand) (case : Case) : Attempt Filter :=
  Filter.on E field (.endsWith · value case)

def contains (value : Comparand) (case : Case) : Attempt Filter :=
  Filter.on E field (.contains · value case)

def containsAll (values : List Comparand) : Attempt Filter :=
  Filter.on E field (.containsAll · values)

def containsExclusively (values : List Comparand) : Attempt Filter :=
  Filter.on E field (.containsExclusively · values)

def containsAtLeastOne (values : List Comparand) : Attempt Filter :=
  Filter.on E field (.containsAtLeastOne · values)

def containsNone (values : List Comparand) : Attempt Filter :=
  Filter.on E field (.containsNone · values)

def isNull : Attempt Filter := Filter.on E field .isNull

def isNotNull : Attempt Filter := Filter.on E field .isNotNull

end FieldFilter

/-! ## Comparisons without a field -/

/-- What a field is compared with, and how. -/
inductive Comparison where
  | equal (value : Comparand)
  | notEqual (value : Comparand)
  | greaterThan (value : NumericComparand)
  | greaterThanOrEqual (value : NumericComparand)
  | lessThan (value : NumericComparand)
  | lessThanOrEqual (value : NumericComparand)
  | startsWith (value : Comparand) (case : Case)
  | endsWith (value : Comparand) (case : Case)
  | contains (value : Comparand) (case : Case)
  | containsAll (values : List Comparand)
  | containsExclusively (values : List Comparand)
  | containsAtLeastOne (values : List Comparand)
  | containsNone (values : List Comparand)
  | isNull
  | isNotNull

namespace Comparison

/-- The filter on the field of a path. -/
def ofPath (path : FieldPath) : Comparison → Filter
  | equal value => .equal path value
  | notEqual value => .notEqual path value
  | greaterThan value => .greaterThan path value
  | greaterThanOrEqual value => .greaterThanOrEqual path value
  | lessThan value => .lessThan path value
  | lessThanOrEqual value => .lessThanOrEqual path value
  | startsWith value case => .startsWith path value case
  | endsWith value case => .endsWith path value case
  | contains value case => .contains path value case
  | containsAll values => .containsAll path values
  | containsExclusively values => .containsExclusively path values
  | containsAtLeastOne values => .containsAtLeastOne path values
  | containsNone values => .containsNone path values
  | isNull => .isNull path
  | isNotNull => .isNotNull path

/-- The filter on the field of a typed reference. -/
def ofReference (E : Entity) (field : E.Field) : Comparison → Attempt Filter
  | equal value => FieldFilter.equal E field value
  | notEqual value => FieldFilter.notEqual E field value
  | greaterThan value => FieldFilter.greaterThan E field value
  | greaterThanOrEqual value => FieldFilter.greaterThanOrEqual E field value
  | lessThan value => FieldFilter.lessThan E field value
  | lessThanOrEqual value => FieldFilter.lessThanOrEqual E field value
  | startsWith value case => FieldFilter.startsWith E field value case
  | endsWith value case => FieldFilter.endsWith E field value case
  | contains value case => FieldFilter.contains E field value case
  | containsAll values => FieldFilter.containsAll E field values
  | containsExclusively values => FieldFilter.containsExclusively E field values
  | containsAtLeastOne values => FieldFilter.containsAtLeastOne E field values
  | containsNone values => FieldFilter.containsNone E field values
  | isNull => FieldFilter.isNull E field
  | isNotNull => FieldFilter.isNotNull E field

end Comparison

end Apicalypse

import Apicalypse.Filter.Comparison

/-!
# Ways to make a filter

A filter on one field can be made by a constructor of its own, by an operator that is looked up by
its name, and on a typed reference. All of them make the same filter.

* `Operator.ofName?_eq_some_iff`: a name means the operators of that name; the case is put into a
  string match and has no part in the others.
* `Filter.named?`, `Filter.namedWithAll?`: the filter of an operator that is looked up.
* `Comparison.ofReference_eq_map`: a typed reference is compared as the path that it resolves to.
* `constructors_agree`: every constructor and what it is the same as.
-/

namespace Apicalypse

/-! ## Names of operators -/

namespace Operator

theorem ofName?_eq_some_iff {name : String} {case : Case} {operator : Operator} :
    ofName? name case = some operator ↔
      name = operator.name ∧ operator.case?.getD case = case := by
  constructor
  · intro h
    unfold ofName? at h
    split at h <;> cases h <;> exact ⟨rfl, rfl⟩
  · rintro ⟨rfl, hcase⟩
    rw [← hcase]
    cases operator <;> rfl

/-- The name of an operator and its case give the operator back. One that has no case has any. -/
theorem ofName?_name (operator : Operator) (case : Case) :
    ofName? operator.name (operator.case?.getD case) = some operator := by
  refine ofName?_eq_some_iff.mpr ⟨rfl, ?_⟩
  cases operator.case? <;> rfl

theorem ofName?_isSome_iff {name : String} {case : Case} :
    (ofName? name case).isSome ↔ ∃ operator : Operator, operator.name = name := by
  rw [Option.isSome_iff_exists]
  constructor
  · rintro ⟨operator, h⟩
    exact ⟨operator, (ofName?_eq_some_iff.mp h).1.symm⟩
  · rintro ⟨operator, rfl⟩
    cases operator <;> exact ⟨_, rfl⟩

end Operator

/-! ## Operators that are looked up -/

namespace Filter

variable (name : String) (case : Case) (path : FieldPath)

/-- A field against a value, under the operator of a name. -/
def named? (value : Comparand) : Option Filter :=
  (Operator.ofName? name case).map (compare path · value)

/-- A field against a list of values, under the operator of a name. -/
def namedWithAll? (values : List Comparand) : Option Filter :=
  (Operator.ofName? name case).map (compareWithAll path · values)

theorem named?_name (operator : Operator) (value : Comparand) :
    named? operator.name (operator.case?.getD case) path value =
      some (compare path operator value) := by
  rw [named?, Operator.ofName?_name, Option.map_some]

theorem namedWithAll?_name (operator : Operator) (values : List Comparand) :
    namedWithAll? operator.name (operator.case?.getD case) path values =
      some (compareWithAll path operator values) := by
  rw [namedWithAll?, Operator.ofName?_name, Option.map_some]

end Filter

/-! ## Typed references -/

namespace Comparison

/-- A typed reference is compared as the path that it resolves to. -/
theorem ofReference_eq_map (E : Entity) (field : E.Field) (comparison : Comparison) :
    comparison.ofReference E field = (comparison.ofPath ·) <$> E.resolve field := by
  have hon : comparison.ofReference E field = Filter.on E field (comparison.ofPath ·) := by
    cases comparison <;> rfl
  rw [hon, Filter.on, map_eq_pure_bind]

end Comparison

/-! ## Constructors -/

namespace Filter

/-- The constructors on a path make the filters of the operators that their names mean. A string
match is in the case that it is looked up in, and the others are the same in both. -/
structure NamedByOperators (path : FieldPath) (case : Case) : Prop where
  equal (value : Comparand) :
    named? "equal" case path value = some (Filter.equal path value)
  notEqual (value : Comparand) :
    named? "not_equal" case path value = some (Filter.notEqual path value)
  greaterThan (value : NumericComparand) :
    named? "greater_than" case path value = some (Filter.greaterThan path value)
  greaterThanOrEqual (value : NumericComparand) :
    named? "greater_than_or_equal" case path value = some (Filter.greaterThanOrEqual path value)
  lessThan (value : NumericComparand) :
    named? "less_than" case path value = some (Filter.lessThan path value)
  lessThanOrEqual (value : NumericComparand) :
    named? "less_than_or_equal" case path value = some (Filter.lessThanOrEqual path value)
  startsWith (value : Comparand) :
    named? "starts_with" case path value = some (Filter.startsWith path value case)
  endsWith (value : Comparand) :
    named? "ends_with" case path value = some (Filter.endsWith path value case)
  contains (value : Comparand) :
    named? "contains" case path value = some (Filter.contains path value case)
  containsAll (values : List Comparand) :
    namedWithAll? "contains_all" case path values = some (Filter.containsAll path values)
  containsExclusively (values : List Comparand) :
    namedWithAll? "contains_exclusively" case path values =
      some (Filter.containsExclusively path values)
  containsAtLeastOne (values : List Comparand) :
    namedWithAll? "contains_at_least_one" case path values =
      some (Filter.containsAtLeastOne path values)
  containsNone (values : List Comparand) :
    namedWithAll? "contains_none" case path values = some (Filter.containsNone path values)

theorem namedByOperators (path : FieldPath) (case : Case) : NamedByOperators path case where
  equal := named?_name case path .equal
  notEqual := named?_name case path .notEqual
  greaterThan value := named?_name case path .greaterThan value
  greaterThanOrEqual value := named?_name case path .greaterThanOrEqual value
  lessThan value := named?_name case path .lessThan value
  lessThanOrEqual value := named?_name case path .lessThanOrEqual value
  startsWith := named?_name case path (.startsWith case)
  endsWith := named?_name case path (.endsWith case)
  contains := named?_name case path (.contains case)
  containsAll := namedWithAll?_name case path .containsAll
  containsExclusively := namedWithAll?_name case path .containsExclusively
  containsAtLeastOne := namedWithAll?_name case path .containsAtLeastOne
  containsNone := namedWithAll?_name case path .containsNone

/-- **All ways to make a filter agree.** A constructor makes the filter of the operator of its name,
and the tests for a missing value compare with one. On a typed reference it makes, whatever it
compares with, the same filter on the path of the reference, or gives the error of a reference that
has no path. A name means an operator just when it is the name of one, and the name and the case of
an operator mean that operator. -/
theorem constructors_agree :
    (∀ path case, NamedByOperators path case) ∧
      (∀ path, isNull path = equal path .absent ∧ isNotNull path = notEqual path .absent) ∧
      (∀ (E : Entity) (field : E.Field) (comparison : Comparison),
        (comparison.ofReference E field).outcome =
          match (E.resolve field).outcome with
          | .ok path => .ok (comparison.ofPath path)
          | .error e => .error e) ∧
      (∀ name case, (Operator.ofName? name case).isSome ↔
        ∃ operator : Operator, operator.name = name) ∧
      ∀ (operator : Operator) (case : Case),
        Operator.ofName? operator.name (operator.case?.getD case) = some operator := by
  refine ⟨namedByOperators, fun path => ⟨rfl, rfl⟩, fun E field comparison => ?_,
    fun name case => Operator.ofName?_isSome_iff, Operator.ofName?_name⟩
  rw [Comparison.ofReference_eq_map, Attempt.outcome_map]
  cases (E.resolve field).outcome <;> rfl

end Filter

end Apicalypse

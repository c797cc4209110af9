import Apicalypse.Proofs.FilterDocument.Conversion
import Apicalypse.Proofs.FirstFaulty

/-!
# The first fault of a document

A document that is no filter reports the error of its first faulty group or comparison, and
nothing after that one matters.

* `DocumentLeaf.Reports`, `FilterDocument.Reports`: the error that a comparison or a group has of
  its own.
* `toFilter_group_eq_error_iff`: a group fails when it is empty, or as its first member that fails.
* `toFilter_eq_error_iff`: a document fails as the first of its nodes that has an error.
* `Surrounding`, `within`: a node and what stands around it.
* `toFilter_first_fault`: both views of the first fault, and that nothing after it matters.
-/

namespace Apicalypse

/-! ## Comparisons -/

namespace Operator

/-- The names of the operators that compare with a single value. -/
def valueNames : List String :=
  ["equal", "not_equal", "greater_than", "greater_than_or_equal", "less_than",
    "less_than_or_equal", "starts_with", "ends_with", "contains"]

/-- The names of the operators that compare with a list. -/
def listNames : List String :=
  ["contains_all", "contains_exclusively", "contains_at_least_one", "contains_none"]

theorem not_mem_listNames {name : String} (h : name ∈ valueNames) : name ∉ listNames :=
  (by decide : ∀ name ∈ valueNames, name ∉ listNames) name h

end Operator

namespace DocumentLeaf

open Operator (valueNames listNames)

/-- The error that a comparison has of its own, the first that applies: its operator is unknown or
a connective, its list is missing, its list is one too many, or what it compares with is no
scalar. -/
inductive Reports (leaf : DocumentLeaf) : DocumentError → Prop
  | unknownOperator (hvalue : leaf.op ∉ valueNames) (hlist : leaf.op ∉ listNames) :
      Reports leaf (.unknownOperator leaf.op)
  | missingValues (hop : leaf.op ∈ listNames) (h : leaf.values = none) :
      Reports leaf (.missingValues leaf.field leaf.op)
  | unexpectedValues (hop : leaf.op ∈ valueNames) (h : leaf.values ≠ none) :
      Reports leaf (.unexpectedValues leaf.field leaf.op)
  | notScalarItem {values : List Json.Value} (hop : leaf.op ∈ listNames)
      (hvalues : leaf.values = some values) (h : ∃ value ∈ values, ¬ value.IsScalar) :
      Reports leaf (.notScalar leaf.field)
  | notScalar {value : Json.Value} (hop : leaf.op ∈ valueNames) (hvalues : leaf.values = none)
      (hvalue : leaf.value = some value) (h : ¬ value.IsScalar) :
      Reports leaf (.notScalar leaf.field)

/-- The operator of a comparison is told by its name. -/
theorem operator?_cases (leaf : DocumentLeaf) :
    (leaf.op ∉ valueNames ∧ leaf.op ∉ listNames ∧ leaf.operator? = none) ∨
      (leaf.op ∈ valueNames ∧ ∃ operator, leaf.operator? = some operator ∧
        operator.isMembership = false) ∨
      (leaf.op ∈ listNames ∧ ∃ operator, leaf.operator? = some operator ∧
        operator.isMembership = true) := by
  unfold operator? Operator.ofName?
  split <;> simp_all [valueNames, listNames, Option.filter, Operator.isLogical,
    Operator.isMembership]

theorem scalarTexts?_eq_none_iff (values : List Json.Value) :
    scalarTexts? values = none ↔ ∃ value ∈ values, ¬ value.IsScalar := by
  have h := comparands_isSome_iff values
  rw [scalarTexts?_eq, Option.map_eq_none_iff, ← Option.not_isSome_iff_eq_none, h]
  simp

theorem scalarText?_eq_none_iff (value : Json.Value) :
    scalarText? value = none ↔ ¬ value.IsScalar := by
  rw [scalarText?_eq, Option.map_eq_none_iff, ← Option.not_isSome_iff_eq_none,
    Json.Value.comparand?_isSome_iff]

theorem toFilter_eq_error_of_operator? {leaf : DocumentLeaf} {operator : Operator}
    (hop : leaf.operator? = some operator) (e : DocumentError) :
    leaf.toFilter = .error e ↔ leaf.comparandText operator = .error e := by
  simp only [toFilter, hop]
  cases leaf.comparandText operator <;> simp [Functor.map, Except.map]

/-- What an operator that compares with a single value is given at fault. -/
theorem value_comparandText_eq_error_iff {leaf : DocumentLeaf} {operator : Operator}
    (hop : leaf.op ∈ valueNames) (hsingle : operator.isMembership = false) (e : DocumentError) :
    leaf.comparandText operator = .error e ↔ leaf.Reports e := by
  have hlist := Operator.not_mem_listNames hop
  unfold comparandText
  rw [hsingle]
  constructor
  · intro h
    cases hvalues : leaf.values with
    | some values =>
      obtain rfl : DocumentError.unexpectedValues leaf.field leaf.op = e := by
        simpa [hvalues] using h
      exact .unexpectedValues hop (by simp [hvalues])
    | none =>
      cases hvalue : leaf.value with
      | none => simp [hvalues, hvalue] at h
      | some value =>
        cases htext : scalarText? value with
        | some text => simp [hvalues, hvalue, htext] at h
        | none =>
          obtain rfl : DocumentError.notScalar leaf.field = e := by
            simpa [hvalues, hvalue, htext] using h
          exact .notScalar hop hvalues hvalue ((scalarText?_eq_none_iff value).mp htext)
  · intro h
    cases h with
    | unknownOperator hvalue => exact absurd hop hvalue
    | missingValues hop' | notScalarItem hop' => exact absurd hop' hlist
    | unexpectedValues _ hvalues =>
      obtain ⟨values, hvalues⟩ := Option.ne_none_iff_exists'.mp hvalues
      simp [hvalues]
    | notScalar _ hvalues hvalue hscalar =>
      simp [hvalues, hvalue, (scalarText?_eq_none_iff _).mpr hscalar]

/-- What an operator that compares with a list is given at fault. -/
theorem list_comparandText_eq_error_iff {leaf : DocumentLeaf} {operator : Operator}
    (hop : leaf.op ∈ listNames) (hmember : operator.isMembership = true) (e : DocumentError) :
    leaf.comparandText operator = .error e ↔ leaf.Reports e := by
  have hvalue : leaf.op ∉ valueNames := fun h => Operator.not_mem_listNames h hop
  unfold comparandText
  rw [hmember]
  constructor
  · intro h
    cases hvalues : leaf.values with
    | none =>
      obtain rfl : DocumentError.missingValues leaf.field leaf.op = e := by
        simpa [hvalues] using h
      exact .missingValues hop hvalues
    | some values =>
      cases htexts : scalarTexts? values with
      | some texts => simp [hvalues, htexts] at h
      | none =>
        obtain rfl : DocumentError.notScalar leaf.field = e := by
          simpa [hvalues, htexts] using h
        exact .notScalarItem hop hvalues ((scalarTexts?_eq_none_iff values).mp htexts)
  · intro h
    cases h with
    | unknownOperator _ hlist => exact absurd hop hlist
    | unexpectedValues hop' | notScalar hop' => exact absurd hop' hvalue
    | missingValues _ hvalues => simp [hvalues]
    | notScalarItem _ hvalues hscalar =>
      simp [hvalues, (scalarTexts?_eq_none_iff _).mpr hscalar]

/-- The conversion of a comparison fails with the comparison's own error. -/
theorem toFilter_eq_error_iff (leaf : DocumentLeaf) (e : DocumentError) :
    leaf.toFilter = .error e ↔ leaf.Reports e := by
  rcases leaf.operator?_cases with
    ⟨hvalue, hlist, hop⟩ | ⟨hvalue, operator, hop, hsingle⟩ | ⟨hlist, operator, hop, hmember⟩
  · rw [toFilter, hop]
    constructor
    · rintro ⟨⟩
      exact .unknownOperator hvalue hlist
    · intro h
      cases h with
      | unknownOperator => rfl
      | missingValues hop' | notScalarItem hop' => exact absurd hop' hlist
      | unexpectedValues hop' | notScalar hop' => exact absurd hop' hvalue
  · rw [toFilter_eq_error_of_operator? hop, value_comparandText_eq_error_iff hvalue hsingle]
  · rw [toFilter_eq_error_of_operator? hop, list_comparandText_eq_error_iff hlist hmember]

end DocumentLeaf

/-! ## Documents -/

namespace FilterDocument

/-- What holds of every comparison, and of a group when it holds of its members, holds of every
document. -/
theorem induction {P : FilterDocument → Prop} (leaf : ∀ comparison, P (.leaf comparison))
    (group : ∀ connective members, (∀ member ∈ members, P member) → P (.group connective members))
    (document : FilterDocument) : P document := by
  match document with
  | .leaf comparison => exact leaf comparison
  | .group connective members =>
    exact group connective members fun member _ => induction leaf group member

/-- The error that a group or a comparison has of its own. A group with members has none. -/
def Reports : FilterDocument → DocumentError → Prop
  | leaf comparison, e => comparison.Reports e
  | group connective members, e => members = [] ∧ e = .emptyGroup connective

theorem convertible_iff_toFilter (document : FilterDocument) :
    document.Convertible ↔ ∃ filter, document.toFilter = .ok filter := by
  rw [← built?_isSome_iff, Option.isSome_iff_exists]
  exact exists_congr fun filter => toFilter_eq_ok_iff.symm

theorem joinAll_eq_error_iff (connective : Connective) (joined : Filter)
    (members : List FilterDocument) (e : DocumentError) :
    joinAll connective joined members = .error e ↔
      FirstFaulty Convertible (·.toFilter = .error e) members := by
  induction members generalizing joined with
  | nil => simp [joinAll]
  | cons next rest ih =>
    rw [firstFaulty_cons, convertible_iff_toFilter, joinAll]
    cases hnext : next.toFilter with
    | error e' => simp [bind, Except.bind]
    | ok filter => simpa [bind, Except.bind] using ih (joined.join connective filter)

/-- **One group.** It fails when it is empty, and else as the first of its members that fails. -/
theorem toFilter_group_eq_error_iff (connective : Connective) (members : List FilterDocument)
    (e : DocumentError) : (group connective members).toFilter = .error e ↔
      (group connective members).Reports e ∨
        FirstFaulty Convertible (·.toFilter = .error e) members := by
  cases members with
  | nil => simp [toFilter, Reports, eq_comm]
  | cons first rest =>
    rw [firstFaulty_cons, convertible_iff_toFilter, toFilter]
    cases hfirst : first.toFilter with
    | error e' => simp [bind, Except.bind, Reports]
    | ok filter =>
      simpa [bind, Except.bind, Reports] using joinAll_eq_error_iff connective filter rest e

/-! ## Nodes in reading order -/

/-- The first member that fails has the first node at fault, when that is so for each member. -/
theorem firstFaulty_nodesOfAll {members : List FilterDocument} {e : DocumentError}
    (h : ∀ member ∈ members,
      member.toFilter = .error e ↔ FirstFaulty Sound (·.Reports e) member.nodes) :
    FirstFaulty Convertible (·.toFilter = .error e) members ↔
      FirstFaulty Sound (·.Reports e) (nodesOfAll members) := by
  induction members with
  | nil => simp [nodesOfAll]
  | cons member rest ih =>
    rw [List.forall_mem_cons] at h
    rw [firstFaulty_cons, nodesOfAll, firstFaulty_append, h.1, ih h.2, Convertible]

/-- **The first node at fault.** A document fails with the error that the first of its groups and
comparisons with an error of its own has. -/
theorem toFilter_eq_error_iff (document : FilterDocument) (e : DocumentError) :
    document.toFilter = .error e ↔ FirstFaulty Sound (·.Reports e) document.nodes := by
  induction document using induction with
  | leaf comparison =>
    rw [nodes, firstFaulty_cons, toFilter, comparison.toFilter_eq_error_iff]
    simp [Reports]
  | group connective members ih =>
    rw [toFilter_group_eq_error_iff, nodes, firstFaulty_cons, firstFaulty_nodesOfAll ih]
    -- A group with an error of its own is empty, so it has no members that could fail.
    by_cases hempty : members = []
    · simp [hempty, nodesOfAll]
    · simp [Sound, hempty]

/-! ## What stands around a node -/

/-- A group around one of its members. -/
structure Surrounding where
  connective : Connective
  before : List FilterDocument
  after : List FilterDocument

/-- A document in the groups around it, from the innermost to the outermost. -/
def within (document : FilterDocument) : List Surrounding → FilterDocument
  | [] => document
  | s :: rest => (group s.connective (s.before ++ document :: s.after)).within rest

/-- The same groups with the same members before the place, and any members after it. -/
def SameBefore (place place' : List Surrounding) : Prop :=
  place.map (fun s => (s.connective, s.before)) = place'.map fun s => (s.connective, s.before)

theorem within_concat (document : FilterDocument) (place : List Surrounding) (s : Surrounding) :
    document.within (place ++ [s]) =
      group s.connective (s.before ++ document.within place :: s.after) := by
  induction place generalizing document with
  | nil => rfl
  | cons inner rest ih => exact ih _

/-- The error of a document is that of the groups around it, when nothing before it fails. -/
theorem toFilter_within {document : FilterDocument} {e : DocumentError}
    (h : document.toFilter = .error e) {place : List Surrounding}
    (hbefore : ∀ s ∈ place, ∀ d ∈ s.before, d.Convertible) :
    (document.within place).toFilter = .error e := by
  induction place generalizing document with
  | nil => exact h
  | cons s rest ih =>
    rw [List.forall_mem_cons] at hbefore
    refine ih ?_ hbefore.2
    exact (toFilter_group_eq_error_iff _ _ e).mpr (.inr ⟨s.before, document, s.after, rfl,
      hbefore.1, h⟩)

/-- A document that fails has a place of which the node is at fault and nothing before it. -/
theorem exists_within_of_toFilter_eq_error {document : FilterDocument} {e : DocumentError}
    (h : document.toFilter = .error e) : ∃ node place, document = within node place ∧
      node.Reports e ∧ ∀ s ∈ place, ∀ d ∈ s.before, d.Convertible := by
  induction document using induction with
  | leaf comparison =>
    exact ⟨leaf comparison, [], rfl, (comparison.toFilter_eq_error_iff e).mp h, by simp⟩
  | group connective members ih =>
    rcases (toFilter_group_eq_error_iff connective members e).mp h with
      hown | ⟨before, member, after, rfl, hbefore, hmember⟩
    · exact ⟨group connective members, [], rfl, hown, by simp⟩
    · obtain ⟨node, place, rfl, hnode, hplace⟩ := ih member (by simp) hmember
      refine ⟨node, place ++ [⟨connective, before, after⟩],
        (within_concat node place ⟨connective, before, after⟩).symm, hnode, ?_⟩
      rw [List.forall_mem_append]
      exact ⟨hplace, by simpa using hbefore⟩

theorem toFilter_of_reports {node : FilterDocument} {e : DocumentError} (h : node.Reports e) :
    node.toFilter = .error e := by
  cases node with
  | leaf comparison => exact (comparison.toFilter_eq_error_iff e).mpr h
  | group connective members =>
    exact (toFilter_group_eq_error_iff connective members e).mpr (.inl h)

theorem SameBefore.convertible {place place' : List Surrounding} (h : SameBefore place place')
    (hbefore : ∀ s ∈ place, ∀ d ∈ s.before, d.Convertible) :
    ∀ s ∈ place', ∀ d ∈ s.before, d.Convertible := by
  intro s hs d hd
  have hmem : (s.connective, s.before) ∈ place.map fun s => (s.connective, s.before) :=
    h ▸ List.mem_map_of_mem hs
  obtain ⟨t, ht, heq⟩ := List.mem_map.mp hmem
  exact hbefore t ht d ((Prod.mk.inj heq).2 ▸ hd)

/-- **The first fault is the error of a document.** A document fails with the error of the first
of its nodes, in reading order, that has one of its own. That node stands in a place with nothing
but convertible documents before it; and whatever is put after it, at any depth, the document
fails with that error. -/
theorem toFilter_first_fault :
    (∀ (document : FilterDocument) (e : DocumentError),
        document.toFilter = .error e ↔ FirstFaulty Sound (·.Reports e) document.nodes) ∧
      (∀ (document : FilterDocument) (e : DocumentError), document.toFilter = .error e →
        ∃ node place, document = within node place ∧ node.Reports e ∧
          ∀ s ∈ place, ∀ d ∈ s.before, d.Convertible) ∧
      ∀ (node : FilterDocument) (place place' : List Surrounding) (e : DocumentError),
        node.Reports e → (∀ s ∈ place, ∀ d ∈ s.before, d.Convertible) → SameBefore place place' →
        (node.within place).toFilter = .error e ∧ (node.within place').toFilter = .error e := by
  refine ⟨toFilter_eq_error_iff, fun document e => exists_within_of_toFilter_eq_error,
    fun node place place' e hnode hplace hsame => ?_⟩
  have hown := toFilter_of_reports hnode
  exact ⟨toFilter_within hown hplace, toFilter_within hown (hsame.convertible hplace)⟩

/-- A comparison that has both a list, which it cannot use, and an object to compare with. -/
def overloaded : DocumentLeaf where
  field := "tags"
  op := "starts_with"
  value := some (.object [])
  values := some []
  case := .insensitive

/-- In a group of its own after a comparison, and before other nodes. -/
def crowded (afterInner afterOuter : List FilterDocument) : List Surrounding :=
  [⟨.and, [], afterInner⟩, ⟨.or, [leaf uncovered], afterOuter⟩]

theorem overloaded_first_fault :
    ((leaf overloaded).within
        (crowded [group .and []] [leaf { overloaded with op := "or" }])).toFilter =
        .error (.unexpectedValues "tags" "starts_with") ∧
      ((leaf overloaded).within (crowded [] [leaf uncovered, group .or []])).toFilter =
        .error (.unexpectedValues "tags" "starts_with") ∧
      FirstFaulty Sound (·.Reports (.unexpectedValues "tags" "starts_with"))
        ((leaf overloaded).within (crowded [] [leaf uncovered, group .or []])).nodes := by
  obtain ⟨hnodes, -, hafter⟩ := toFilter_first_fault
  have hown : (leaf overloaded).Reports (.unexpectedValues "tags" "starts_with") :=
    .unexpectedValues (by decide) (by simp [overloaded])
  have huncovered : (leaf uncovered).Convertible :=
    (convertible_iff_toFilter _).mpr ⟨.isNotNull (.name "cover"), rfl⟩
  obtain ⟨h, h'⟩ := hafter (leaf overloaded)
    (crowded [group .and []] [leaf { overloaded with op := "or" }])
    (crowded [] [leaf uncovered, group .or []]) _ hown (by simpa [crowded] using huncovered) rfl
  exact ⟨h, h', (hnodes _ _).mp h'⟩

end FilterDocument

end Apicalypse

import Apicalypse.FilterDocument

/-!
# Filters of documents

A filter document stands for the filter that the constructors of filters make of it.

* `Json.Value.comparand?`, `DocumentLeaf.built?`, `FilterDocument.built?`: that filter, made by
  `Filter.compare`, `Filter.compareWithAll` and left folds of `Filter.join`.
* `FilterDocument.nodes`, `FilterDocument.Convertible`: the groups and comparisons of a document,
  and the documents in which each of them stands for a filter.
* `toFilter_eq_ok_iff`: the conversion gives the filter of the constructors and no other.
* `built?_isSome_iff`: it succeeds for the convertible documents and no others.
* `toFilter_constructors`: both, and what a comparison does not look at.
-/

namespace Apicalypse

/-- Only the names of the string matches mean something else in another case. -/
theorem Operator.ofName?_of_not_stringMatch {name : String} {case : Case}
    (h : ∀ operator ∈ ofName? name case, operator.isStringMatch = false) (other : Case) :
    ofName? name other = ofName? name case := by
  unfold ofName? at h ⊢
  split <;> simp_all [isStringMatch]

/-! ## Scalars -/

namespace Json.Value

/-- Neither a list nor an object. -/
def IsScalar : Value → Prop
  | .list _ | .object _ => False
  | .null | .boolean _ | .number _ | .string _ => True

/-- The comparand that a scalar stands for. A number stands for its text. -/
def comparand? : Value → Option Comparand
  | .string text => some (.text text)
  | .number n => some (.text n.text)
  | .boolean value => some (.boolean value)
  | .null => some .absent
  | .list _ | .object _ => none

theorem comparand?_isSome_iff (value : Value) : value.comparand?.isSome ↔ value.IsScalar := by
  cases value <;> simp [comparand?, IsScalar]

end Json.Value

namespace DocumentLeaf

theorem scalarText?_eq (value : Json.Value) :
    scalarText? value = value.comparand?.map Comparand.render := by
  match value with
  | .boolean true | .boolean false => rfl
  | .string _ | .number _ | .null | .list _ | .object _ => rfl

theorem scalarTexts?_eq (values : List Json.Value) :
    scalarTexts? values = (values.mapM Json.Value.comparand?).map (·.map Comparand.render) := by
  unfold scalarTexts?
  induction values with
  | nil => rfl
  | cons value rest ih =>
    rw [List.mapM_cons, List.mapM_cons, ih, scalarText?_eq]
    cases value.comparand? <;> cases rest.mapM Json.Value.comparand? <;> rfl

theorem comparands_isSome_iff (values : List Json.Value) :
    (values.mapM Json.Value.comparand?).isSome ↔ ∀ value ∈ values, value.IsScalar := by
  induction values with
  | nil => simp
  | cons value rest ih =>
    rw [List.forall_mem_cons, ← ih, ← Json.Value.comparand?_isSome_iff, List.mapM_cons]
    cases value.comparand? <;> cases rest.mapM Json.Value.comparand? <;> simp

/-! ## Comparisons -/

/-- What an operator compares with is there: a list of scalars for an operator of membership, and
no list and at most a scalar for the others. -/
def Supplies (leaf : DocumentLeaf) (operator : Operator) : Prop :=
  (operator.isMembership = true ∧
      ∃ values, leaf.values = some values ∧ ∀ value ∈ values, value.IsScalar) ∨
    (operator.isMembership = false ∧ leaf.values = none ∧ ∀ value ∈ leaf.value, value.IsScalar)

/-- The operator is known and no connective, and what it compares with is there. -/
def Convertible (leaf : DocumentLeaf) : Prop :=
  ∃ operator, Operator.ofName? leaf.op leaf.case = some operator ∧ operator.isLogical = false ∧
    leaf.Supplies operator

/-- The filter that the constructors make of a comparison under an operator. The field is one
segment, and a missing value is `null`. -/
def builtWith? (leaf : DocumentLeaf) (operator : Operator) : Option Filter :=
  if operator.isMembership then do
    let values ← leaf.values
    return .compareWithAll (.name leaf.field) operator (← values.mapM Json.Value.comparand?)
  else if leaf.values.isSome then none
  else return .compare (.name leaf.field) operator (← (leaf.value.getD .null).comparand?)

/-- The filter that the constructors make of a comparison. -/
def built? (leaf : DocumentLeaf) : Option Filter := do
  let operator ← Operator.ofName? leaf.op leaf.case
  if operator.isLogical then none else leaf.builtWith? operator

theorem builtWith?_isSome_iff (leaf : DocumentLeaf) (operator : Operator) :
    (leaf.builtWith? operator).isSome ↔ leaf.Supplies operator := by
  unfold builtWith? Supplies
  cases operator.isMembership with
  | true =>
    cases leaf.values with
    | none => simp
    | some values =>
      have h := comparands_isSome_iff values
      cases hc : values.mapM Json.Value.comparand? <;> simp_all
  | false =>
    cases leaf.values with
    | some values => simp
    | none =>
      cases leaf.value with
      | none => simp [Json.Value.comparand?]
      | some value =>
        have h := value.comparand?_isSome_iff
        cases hc : value.comparand? <;> simp_all

theorem built?_isSome_iff (leaf : DocumentLeaf) : leaf.built?.isSome ↔ leaf.Convertible := by
  unfold built? Convertible
  cases Operator.ofName? leaf.op leaf.case with
  | none => simp
  | some operator =>
    have h := leaf.builtWith?_isSome_iff operator
    cases hlogical : operator.isLogical <;> simp [hlogical, h]

theorem comparandText_toOption (leaf : DocumentLeaf) (operator : Operator) :
    (Filter.ofText (.name leaf.field) operator <$> leaf.comparandText operator).toOption =
      leaf.builtWith? operator := by
  unfold comparandText builtWith?
  split
  · cases leaf.values with
    | none => rfl
    | some values =>
      simp only [scalarTexts?_eq, Option.bind_eq_bind, Option.bind_some]
      cases values.mapM Json.Value.comparand? <;> rfl
  · cases leaf.values with
    | some values => rfl
    | none =>
      cases leaf.value with
      | none => rfl
      | some value =>
        simp only [scalarText?_eq, Option.getD_some]
        cases value.comparand? <;> rfl

theorem operator?_of_ofName? {leaf : DocumentLeaf} {operator : Operator}
    (h : Operator.ofName? leaf.op leaf.case = some operator) :
    leaf.operator? = if operator.isLogical then none else some operator := by
  rw [operator?, h]
  cases hl : operator.isLogical <;> simp [Option.filter, hl]

/-- The conversion of a comparison, its error aside, is what the constructors make of it. -/
theorem toFilter_toOption (leaf : DocumentLeaf) : leaf.toFilter.toOption = leaf.built? := by
  unfold toFilter built?
  cases hop : Operator.ofName? leaf.op leaf.case with
  | none => rw [operator?, hop]; rfl
  | some operator =>
    rw [operator?_of_ofName? hop]
    cases hlogical : operator.isLogical with
    | true => simp [hlogical, Except.toOption]
    | false => simp [hlogical, comparandText_toOption]

theorem toFilter_eq_ok_iff {leaf : DocumentLeaf} {filter : Filter} :
    leaf.toFilter = .ok filter ↔ leaf.built? = some filter := by
  rw [← toFilter_toOption]
  cases leaf.toFilter <;> simp [Except.toOption]

/-- A list is compared with, whatever the single value is. -/
theorem toFilter_withValue {leaf : DocumentLeaf} {operator : Operator}
    (hop : Operator.ofName? leaf.op leaf.case = some operator)
    (hmember : operator.isMembership = true) (value : Option Json.Value) :
    toFilter { leaf with value := value } = leaf.toFilter := by
  have hop' : Operator.ofName? ({ leaf with value := value } : DocumentLeaf).op
      ({ leaf with value := value } : DocumentLeaf).case = some operator := hop
  rw [toFilter, toFilter, operator?_of_ofName? hop, operator?_of_ofName? hop']
  cases hlogical : operator.isLogical <;> simp [comparandText, hmember]

theorem toFilter_withCase {leaf : DocumentLeaf}
    (h : ∀ operator ∈ Operator.ofName? leaf.op leaf.case, operator.isStringMatch = false)
    (case : Case) : toFilter { leaf with case := case } = leaf.toFilter := by
  have hop : ({ leaf with case := case } : DocumentLeaf).operator? = leaf.operator? := by
    simp only [operator?, Operator.ofName?_of_not_stringMatch h case]
  rw [toFilter, toFilter, hop]
  rfl

end DocumentLeaf

/-! ## Documents -/

namespace FilterDocument

mutual

/-- The groups and comparisons of a document, each group before its members and the members from
left to right. -/
def nodes : FilterDocument → List FilterDocument
  | leaf comparison => [leaf comparison]
  | group connective members => group connective members :: nodesOfAll members

/-- The groups and comparisons of several documents, from left to right. -/
def nodesOfAll : List FilterDocument → List FilterDocument
  | [] => []
  | document :: rest => document.nodes ++ nodesOfAll rest

end

/-- A group with members, or a convertible comparison. The members of the group are not looked
at. -/
def Sound : FilterDocument → Prop
  | leaf comparison => comparison.Convertible
  | group _ members => members ≠ []

/-- No group is empty and every comparison is convertible. -/
def Convertible (document : FilterDocument) : Prop := ∀ node ∈ document.nodes, node.Sound

mutual

/-- The filter that the constructors make of a document. A group is joined from the left, and
nothing can be made of an empty one. -/
def built? : FilterDocument → Option Filter
  | leaf comparison => comparison.built?
  | group connective members => do
    match ← builtAll? members with
    | [] => none
    | first :: rest => some (rest.foldl (Filter.join connective) first)

/-- The filters of several documents. -/
def builtAll? : List FilterDocument → Option (List Filter)
  | [] => some []
  | document :: rest => do
    let filter ← document.built?
    return filter :: (← builtAll? rest)

end

mutual

theorem toFilter_toOption (document : FilterDocument) :
    document.toFilter.toOption = document.built? := by
  match document with
  | leaf comparison =>
    rw [toFilter, built?]
    exact comparison.toFilter_toOption
  | group connective [] => simp [toFilter, built?, builtAll?, Except.toOption]
  | group connective (first :: rest) =>
    have hfirst := toFilter_toOption first
    rw [toFilter, built?, builtAll?, ← hfirst]
    cases first.toFilter with
    | error e => rfl
    | ok filter =>
      show (joinAll connective filter rest).toOption = _
      rw [joinAll_toOption connective filter rest]
      cases builtAll? rest <;> rfl

/-- Joining the filters of more documents is a left fold. -/
theorem joinAll_toOption (connective : Connective) (joined : Filter)
    (members : List FilterDocument) : (joinAll connective joined members).toOption =
      (builtAll? members).map (·.foldl (Filter.join connective) joined) := by
  match members with
  | [] => simp [joinAll, builtAll?, Except.toOption]
  | next :: rest =>
    have hnext := toFilter_toOption next
    rw [joinAll, builtAll?, ← hnext]
    cases next.toFilter with
    | error e => rfl
    | ok filter =>
      show (joinAll connective (joined.join connective filter) rest).toOption = _
      rw [joinAll_toOption connective (joined.join connective filter) rest]
      cases builtAll? rest <;> rfl

end

/-- The conversion gives the filter of the constructors and no other. -/
theorem toFilter_eq_ok_iff {document : FilterDocument} {filter : Filter} :
    document.toFilter = .ok filter ↔ document.built? = some filter := by
  rw [← toFilter_toOption]
  cases document.toFilter <;> simp [Except.toOption]

theorem sound_nodesOfAll_cons (document : FilterDocument) (rest : List FilterDocument) :
    (∀ node ∈ nodesOfAll (document :: rest), node.Sound) ↔
      document.Convertible ∧ ∀ node ∈ nodesOfAll rest, node.Sound := by
  rw [nodesOfAll, List.forall_mem_append, Convertible]

mutual

theorem built?_isSome_iff (document : FilterDocument) :
    document.built?.isSome ↔ document.Convertible := by
  match document with
  | leaf comparison => simp [built?, Convertible, nodes, Sound, comparison.built?_isSome_iff]
  | group connective [] => simp [built?, builtAll?, Convertible, nodes, Sound]
  | group connective (first :: rest) =>
    have h := builtAll?_isSome_iff (first :: rest)
    rw [Convertible, nodes, List.forall_mem_cons, ← h, built?, builtAll?]
    cases first.built? <;> cases builtAll? rest <;> simp [Sound]

theorem builtAll?_isSome_iff (documents : List FilterDocument) :
    (builtAll? documents).isSome ↔ ∀ node ∈ nodesOfAll documents, node.Sound := by
  match documents with
  | [] => simp [builtAll?, nodesOfAll]
  | document :: rest =>
    rw [sound_nodesOfAll_cons, ← built?_isSome_iff document, ← builtAll?_isSome_iff rest, builtAll?]
    cases document.built? <;> cases builtAll? rest <;> simp

end

/-- **A document is what the constructors make of it.** The conversion succeeds when no group is
empty and every comparison is convertible, and then gives the filter that the constructors give; a
group of one member is that member. A comparison with a list does not look at its single value,
and no comparison but a string match at its case. -/
theorem toFilter_constructors :
    (∀ (document : FilterDocument) (filter : Filter),
        document.toFilter = .ok filter ↔ document.built? = some filter) ∧
      (∀ document : FilterDocument,
        (∃ filter, document.toFilter = .ok filter) ↔ document.Convertible) ∧
      (∀ (connective : Connective) (document : FilterDocument),
        (group connective [document]).toFilter = document.toFilter) ∧
      (∀ (comparison : DocumentLeaf) (operator : Operator) (value : Option Json.Value),
        Operator.ofName? comparison.op comparison.case = some operator →
        operator.isMembership = true →
        (leaf { comparison with value := value }).toFilter = (leaf comparison).toFilter) ∧
      ∀ (comparison : DocumentLeaf) (case : Case),
        (∀ operator ∈ Operator.ofName? comparison.op comparison.case,
          operator.isStringMatch = false) →
        (leaf { comparison with case := case }).toFilter = (leaf comparison).toFilter := by
  refine ⟨fun document filter => toFilter_eq_ok_iff, fun document => ?_,
    fun connective document => ?_, fun comparison operator value hop hmember => ?_,
    fun comparison case h => ?_⟩
  · rw [← built?_isSome_iff, Option.isSome_iff_exists]
    exact exists_congr fun filter => toFilter_eq_ok_iff
  · rw [toFilter]
    cases document.toFilter with
    | error e => rfl
    | ok filter => rfl
  · exact DocumentLeaf.toFilter_withValue hop hmember value
  · exact DocumentLeaf.toFilter_withCase h case

/-- A comparison with a list, and a single value that is none of its business. -/
def tagged : DocumentLeaf where
  field := "tags.id"
  op := "contains_all"
  value := some (.object [("value", .list [])])
  values := some [.string "a,b", .boolean true, .null]
  case := .sensitive

/-- A comparison with a missing value. -/
def uncovered : DocumentLeaf where
  field := "cover"
  op := "not_equal"
  value := none
  values := none
  case := .insensitive

theorem tagged_uncovered_filter :
    (group .or [leaf tagged, group .and [leaf uncovered], leaf uncovered]).toFilter =
        .ok (.join .or
          (.join .or (.containsAll (.name "tags.id") [.text "a,b", .boolean true, .absent])
            (.isNotNull (.name "cover")))
          (.isNotNull (.name "cover"))) ∧
      Operator.ofName? tagged.op tagged.case = some .containsAll ∧
      (leaf { tagged with value := none }).toFilter = (leaf tagged).toFilter ∧
      Operator.ofName? uncovered.op uncovered.case = some .notEqual ∧
      (leaf { uncovered with case := .sensitive }).toFilter = (leaf uncovered).toFilter := by
  obtain ⟨hfilter, -, -, hvalue, hcase⟩ := toFilter_constructors
  refine ⟨(hfilter _ _).mpr rfl, rfl, hvalue tagged .containsAll none rfl rfl, rfl,
    hcase uncovered .sensitive ?_⟩
  rintro operator ⟨⟩
  rfl

end FilterDocument

end Apicalypse

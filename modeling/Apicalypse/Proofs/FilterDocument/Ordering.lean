import Apicalypse.Proofs.FilterDocument.FirstFault
import Apicalypse.Proofs.FilterDocument.Matching

/-!
# Ordering comparisons of documents

The named constructors compare by order with numbers only: `Filter.greaterThan` and its three
siblings take a `NumericComparand`. A document is converted by the general constructor, which
takes anything.

* `Operator.orderNames`: the names of the operators that compare by order.
* `FilterDocument.OrdersNumbers`: the documents that compare by order with numbers only.
* `FilterDocument.asEqualities`: the document with every comparison by order made an equality.
* `parseFilter_ordering`: a text is a filter as if its comparisons by order were equalities, and
  what that leaves to be compared by order beside numbers.
* `highRating_not_ordersNumbers`: so there are filters with a comparison by order of a text.
-/

namespace Apicalypse

namespace Operator

/-- The names of the operators that compare by order. -/
def orderNames : List String :=
  ["greater_than", "greater_than_or_equal", "less_than", "less_than_or_equal"]

theorem mem_orderNames_iff (name : String) (case : Case) :
    name ∈ orderNames ↔ ∃ operator, ofName? name case = some operator ∧ operator.isOrdering := by
  unfold ofName?
  split <;> simp_all [orderNames, isOrdering]

/-- What compares by order takes a single value, as an equality does. -/
theorem of_isOrdering {operator : Operator} (h : operator.isOrdering = true) :
    operator.isLogical = false ∧ operator.isMembership = false := by
  cases operator <;> simp_all [isOrdering, isLogical, isMembership]

end Operator

open Operator (orderNames)

namespace DocumentLeaf

/-- A comparison by order compares with a number. -/
def OrdersNumber (leaf : DocumentLeaf) : Prop :=
  leaf.op ∈ orderNames → ∃ n, leaf.value = some (.number n)

/-- There is nothing to compare with, or a text, or a truth value. -/
def LacksNumber (leaf : DocumentLeaf) : Prop :=
  leaf.value = none ∨ leaf.value = some .null ∨ (∃ text, leaf.value = some (.string text)) ∨
    ∃ truth, leaf.value = some (.boolean truth)

/-- The comparison with an equality in place of a comparison by order. -/
def asEquality (leaf : DocumentLeaf) : DocumentLeaf :=
  if leaf.op ∈ orderNames then { leaf with op := "equal" } else leaf

/-- A comparison by order is convertible when there is no list and at most a scalar. -/
theorem convertible_of_mem_orderNames {leaf : DocumentLeaf} (h : leaf.op ∈ orderNames) :
    leaf.Convertible ↔ leaf.values = none ∧ ∀ value ∈ leaf.value, value.IsScalar := by
  obtain ⟨operator, hop, hordering⟩ := (Operator.mem_orderNames_iff leaf.op leaf.case).mp h
  obtain ⟨hlogical, hmember⟩ := Operator.of_isOrdering hordering
  simp [Convertible, Supplies, hop, hlogical, hmember]

theorem convertible_asEquality (leaf : DocumentLeaf) :
    leaf.asEquality.Convertible ↔ leaf.Convertible := by
  unfold asEquality
  split
  · next h =>
    rw [convertible_of_mem_orderNames h]
    simp [Convertible, Supplies, Operator.ofName?, Operator.isLogical, Operator.isMembership]
  · rfl

/-- The filter of a comparison by order is the one that the general constructor makes, whichever
scalar the field is compared with. -/
theorem toFilter_of_mem_orderNames {leaf : DocumentLeaf} (h : leaf.op ∈ orderNames)
    (hconvertible : leaf.Convertible) :
    ∃ operator comparand, Operator.ofName? leaf.op leaf.case = some operator ∧
      (leaf.value.getD .null).comparand? = some comparand ∧
      leaf.toFilter = .ok (.compare (.name leaf.field) operator comparand) := by
  obtain ⟨operator, hop, hordering⟩ := (Operator.mem_orderNames_iff leaf.op leaf.case).mp h
  obtain ⟨hlogical, hmember⟩ := Operator.of_isOrdering hordering
  obtain ⟨hvalues, hscalar⟩ := (convertible_of_mem_orderNames h).mp hconvertible
  obtain ⟨comparand, hcomparand⟩ :
      ∃ comparand, (leaf.value.getD .null).comparand? = some comparand := by
    rw [← Option.isSome_iff_exists, Json.Value.comparand?_isSome_iff]
    cases hvalue : leaf.value with
    | none => trivial
    | some value => exact hscalar value hvalue
  have hbuilt : leaf.built? = some (.compare (.name leaf.field) operator comparand) := by
    simp [built?, builtWith?, hop, hlogical, hmember, hvalues, hcomparand]
  exact ⟨operator, comparand, hop, hcomparand, toFilter_eq_ok_iff.mpr hbuilt⟩

/-- A scalar that is no number is one of the others. -/
theorem ordersNumber_iff {leaf : DocumentLeaf} (hscalar : ∀ value ∈ leaf.value, value.IsScalar) :
    (∃ n, leaf.value = some (.number n)) ↔ ¬ leaf.LacksNumber := by
  unfold LacksNumber
  cases hvalue : leaf.value with
  | none => simp
  | some value =>
    have := hscalar value hvalue
    cases value <;> simp_all [Json.Value.IsScalar]

end DocumentLeaf

namespace FilterDocument

/-- All comparisons by order compare with numbers. -/
def OrdersNumbers (document : FilterDocument) : Prop :=
  ∀ comparison, leaf comparison ∈ document.nodes → comparison.OrdersNumber

mutual

/-- The document with equalities in place of its comparisons by order. -/
def asEqualities : FilterDocument → FilterDocument
  | leaf comparison => leaf comparison.asEquality
  | group connective members => group connective (allAsEqualities members)

/-- Several documents with equalities in place of their comparisons by order. -/
def allAsEqualities : List FilterDocument → List FilterDocument
  | [] => []
  | document :: rest => document.asEqualities :: allAsEqualities rest

end

theorem convertible_group_iff (connective : Connective) (members : List FilterDocument) :
    (group connective members).Convertible ↔
      members ≠ [] ∧ ∀ node ∈ nodesOfAll members, node.Sound := by
  rw [Convertible, nodes, List.forall_mem_cons, Sound]

mutual

theorem convertible_asEqualities (document : FilterDocument) :
    document.asEqualities.Convertible ↔ document.Convertible := by
  match document with
  | leaf comparison =>
    simpa [asEqualities, Convertible, nodes, Sound] using comparison.convertible_asEquality
  | group connective members =>
    rw [asEqualities, convertible_group_iff, convertible_group_iff, sound_allAsEqualities members]
    cases members <;> simp [allAsEqualities]

theorem sound_allAsEqualities (documents : List FilterDocument) :
    (∀ node ∈ nodesOfAll (allAsEqualities documents), node.Sound) ↔
      ∀ node ∈ nodesOfAll documents, node.Sound := by
  match documents with
  | [] => rfl
  | document :: rest =>
    rw [allAsEqualities, sound_nodesOfAll_cons, sound_nodesOfAll_cons,
      convertible_asEqualities document, sound_allAsEqualities rest]

end

/-- A text is a filter when it writes a convertible document. -/
theorem exists_parseFilter_iff (text : String) : (∃ filter, parseFilter text = .ok filter) ↔
    ∃ document, parse text = .ok document ∧ document.Convertible := by
  rw [parseFilter]
  cases parse text with
  | error failure => simp [bind, Except.bind, Except.mapError]
  | ok document =>
    simp [bind, Except.bind, Except.mapError, convertible_iff_toFilter]

/-- **Comparisons by order are not held to numbers.** A text is a filter when it writes a document
that is convertible with equalities in place of its comparisons by order, at every depth. Each such
comparison is then the filter that the general constructor makes of its scalar, and it has a number
to compare with unless there is nothing, a text or a truth value; none of these is refused. -/
theorem parseFilter_ordering (text : String) :
    ((∃ filter, parseFilter text = .ok filter) ↔
        ∃ document, parse text = .ok document ∧ document.asEqualities.Convertible) ∧
      ∀ document filter, parse text = .ok document → parseFilter text = .ok filter →
        (∀ comparison, leaf comparison ∈ document.nodes → comparison.op ∈ orderNames →
          comparison.values = none ∧
          ∃ operator comparand, Operator.ofName? comparison.op comparison.case = some operator ∧
            (comparison.value.getD .null).comparand? = some comparand ∧
            (leaf comparison).toFilter =
              .ok (.compare (.name comparison.field) operator comparand)) ∧
        (document.OrdersNumbers ↔ ∀ comparison, leaf comparison ∈ document.nodes →
          comparison.op ∈ orderNames → ¬ comparison.LacksNumber) := by
  refine ⟨by simp only [exists_parseFilter_iff, convertible_asEqualities],
    fun document filter hparse hfilter => ?_⟩
  have hconvertible : document.Convertible := by
    obtain ⟨other, hother, hconvertible⟩ := (exists_parseFilter_iff text).mp ⟨filter, hfilter⟩
    obtain rfl : document = other := Except.ok.inj (hparse.symm.trans hother)
    exact hconvertible
  constructor
  · intro comparison hmem hop
    have hsound : comparison.Convertible := hconvertible _ hmem
    rw [toFilter]
    exact ⟨((DocumentLeaf.convertible_of_mem_orderNames hop).mp hsound).1,
      DocumentLeaf.toFilter_of_mem_orderNames hop hsound⟩
  · refine forall₂_congr fun comparison hmem => forall_congr' fun hop => ?_
    have hsound : comparison.Convertible := hconvertible _ hmem
    exact DocumentLeaf.ordersNumber_iff
      ((DocumentLeaf.convertible_of_mem_orderNames hop).mp hsound).2

/-- A comparison by order of a text. -/
def highRating : DocumentLeaf where
  field := "rating"
  op := "greater_than"
  value := some (.string "high")
  values := none
  case := default

/-- A comparison by order of a text, written out. -/
def highRatingText : String :=
  "\x7b\"field\":\"rating\",\"op\":\"greater_than\",\"value\":\"high\"\x7d"

theorem parse_highRatingText : parse highRatingText = .ok (leaf highRating) := by
  have hread : Json.read (Json.tokens highRatingText.toList) = .ok (.object [
      ("field", .string "rating"), ("op", .string "greater_than"),
      ("value", .string "high")], []) := by
    conv => lhs; arg 1; cbv
    rfl
  rw [parse_of_read hread]
  rfl

theorem parseFilter_highRatingText :
    parseFilter highRatingText = .ok ⟨"rating", .greaterThan, "high"⟩ := by
  rw [parseFilter, parse_highRatingText]
  rfl

theorem highRating_ordering :
    parse highRatingText = .ok (leaf highRating) ∧
      parseFilter highRatingText = .ok ⟨"rating", .greaterThan, "high"⟩ ∧
      highRating.values = none ∧ ¬ (leaf highRating).OrdersNumbers := by
  obtain ⟨-, hordering⟩ := parseFilter_ordering highRatingText
  obtain ⟨hgeneral, hnumbers⟩ := hordering _ _ parse_highRatingText parseFilter_highRatingText
  have hmem : leaf highRating ∈ (leaf highRating).nodes := by simp [nodes]
  have hop : highRating.op ∈ orderNames := by decide
  refine ⟨parse_highRatingText, parseFilter_highRatingText, (hgeneral _ hmem hop).1, ?_⟩
  rw [hnumbers]
  exact fun h => h _ hmem hop (.inr (.inr (.inl ⟨"high", rfl⟩)))

/-- A text is compared by order in a filter. -/
theorem highRating_not_ordersNumbers :
    ¬ ∀ text filter, parseFilter text = .ok filter →
      ∃ document, parse text = .ok document ∧ document.OrdersNumbers := by
  intro h
  obtain ⟨document, hparse, hnumbers⟩ :=
    h highRatingText ⟨"rating", .greaterThan, "high"⟩ parseFilter_highRatingText
  obtain rfl : leaf highRating = document :=
    Except.ok.inj (parse_highRatingText.symm.trans hparse)
  obtain ⟨n, hn⟩ := hnumbers highRating (by simp [nodes]) (by decide)
  cases hn

end FilterDocument

end Apicalypse

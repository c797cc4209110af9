import Apicalypse.Proofs.Filter.Clause
import Apicalypse.Proofs.FilterDocument.FirstFault
import Apicalypse.Proofs.FilterDocument.Ordering
import Apicalypse.Proofs.FloatingPoint.Layout
import Apicalypse.Proofs.Json.Number

/-!
# Floating-point numbers of documents

A number of a document is written in the scientific layout, the same number as a comparand in the
plain one.

* `DocumentLeaf.comparedWith`, `toFilter_comparedWith`: the values that a comparison looks at, and
  that its filter has their texts.
* `numbersFrom_of_parse`: the numbers of a document are those of literals in its text, so each
  floating-point number among them has 64 bits.
* `FilterDocument.FloatsAsComparands`: the two texts of each number are the same.
* `parseFilter_floats`: they are so for the plain numbers, and how they differ for the others.
* `manyVotes_not_floatsAsComparands`: so there are documents in which they differ.
-/

namespace Apicalypse

open FloatingPoint (Magnitude)
open Json (Token)

namespace DocumentLeaf

/-- The values that a comparison compares with under an operator. -/
def comparedWith (leaf : DocumentLeaf) (operator : Operator) : List Json.Value :=
  if operator.isMembership then leaf.values.getD [] else [leaf.value.getD .null]

theorem comparandText_eq_ok {leaf : DocumentLeaf} {operator : Operator} {text : String}
    (h : leaf.comparandText operator = .ok text) :
    ∃ texts, scalarTexts? (leaf.comparedWith operator) = some texts ∧
      text = Text.joined "," texts := by
  unfold comparandText at h
  unfold comparedWith
  split at h
  · next hmember =>
    rw [if_pos hmember]
    cases hvalues : leaf.values with
    | none => simp [hvalues] at h
    | some values =>
      simp only [hvalues, Option.getD_some] at h ⊢
      split at h
      · next texts htexts => exact ⟨texts, htexts, (Except.ok.inj h).symm⟩
      · cases h
  · next hmember =>
    have hsingle (value : Json.Value) (text : String) (hvalue : scalarText? value = some text) :
        ∃ texts, scalarTexts? [value] = some texts ∧ text = Text.joined "," texts :=
      ⟨[text], by simp [scalarTexts?, hvalue], by simp [Text.joined]⟩
    rw [if_neg hmember]
    split at h
    · cases h
    · next hvalue =>
      obtain rfl := Except.ok.inj h
      rw [hvalue]
      exact hsingle .null "null" rfl
    · next value _ hvalue =>
      rw [hvalue]
      split at h
      · next text' htext =>
        obtain rfl := Except.ok.inj h
        exact hsingle value text' htext
      · cases h

/-- The filter of a comparison has the texts of the values that are compared with. -/
theorem toFilter_comparedWith {leaf : DocumentLeaf} {filter : Filter}
    (h : leaf.toFilter = .ok filter) :
    ∃ operator texts, Operator.ofName? leaf.op leaf.case = some operator ∧
      scalarTexts? (leaf.comparedWith operator) = some texts ∧
      filter = .ofText (.name leaf.field) operator (Text.joined "," texts) := by
  unfold toFilter at h
  split at h
  · cases h
  · next operator hoperator =>
    have hop : Operator.ofName? leaf.op leaf.case = some operator :=
      (Option.filter_eq_some_iff.mp hoperator).1
    cases htext : leaf.comparandText operator with
    | error e => simp [htext, Functor.map, Except.map] at h
    | ok text =>
      obtain ⟨texts, htexts, rfl⟩ := comparandText_eq_ok htext
      rw [htext] at h
      exact ⟨operator, texts, hop, htexts, (Except.ok.inj h).symm⟩

/-! ## Numbers from literals -/

/-- The numbers that a comparison may compare with are those of literals among the tokens. -/
structure NumbersFrom (tokens : List Token) (leaf : DocumentLeaf) : Prop where
  value : ∀ value ∈ leaf.value, value.NumbersFrom tokens
  values : ∀ values ∈ leaf.values, ∀ value ∈ values, value.NumbersFrom tokens

theorem NumbersFrom.of_mem_comparedWith {tokens : List Token} {leaf : DocumentLeaf}
    (h : leaf.NumbersFrom tokens) {operator : Operator} {value : Json.Value}
    (hvalue : value ∈ leaf.comparedWith operator) : value.NumbersFrom tokens := by
  unfold comparedWith at hvalue
  split at hvalue
  · cases hvalues : leaf.values with
    | none => simp [hvalues] at hvalue
    | some values => exact h.values values hvalues value (by simpa [hvalues] using hvalue)
  · rw [List.mem_singleton] at hvalue
    subst hvalue
    cases hleaf : leaf.value with
    | none => exact .null
    | some value => exact h.value value hleaf

theorem WritesOptional.eq_some {α : Type} {write : α → Json.Value} {part : Option Json.Value}
    {a : α} (h : WritesOptional write part (some a)) : part = some (write a) := by
  cases h
  rfl

theorem Parts.Write.numbersFrom {tokens : List Token} {leaf : DocumentLeaf} {parts : Parts}
    (h : parts.Write leaf) (hvalue : ∀ part ∈ parts.value, part.NumbersFrom tokens)
    (hvalues : ∀ part ∈ parts.values, part.NumbersFrom tokens) : leaf.NumbersFrom tokens := by
  constructor
  · intro value hleaf
    have hwritten := h.value
    rw [hleaf] at hwritten
    exact hvalue value hwritten.eq_some
  · intro values hleaf
    have hwritten := h.values
    rw [hleaf] at hwritten
    cases hvalues _ hwritten.eq_some with
    | list hitems => exact hitems

theorem WrittenBy.numbersFrom {tokens : List Token} {leaf : DocumentLeaf} {value : Json.Value}
    (h : leaf.WrittenBy value) (hvalue : value.NumbersFrom tokens) : leaf.NumbersFrom tokens := by
  cases h with
  | @object members _ _ h =>
    cases hvalue with
    | object hmembers =>
      have hlookup (name : String) (part : Json.Value) (hpart : part ∈ members.lookup name) :
          part.NumbersFrom tokens := by
        obtain ⟨before, after, rfl, -⟩ := List.lookup_eq_some_iff.mp hpart
        exact hmembers (name, part) (by simp)
      exact h.numbersFrom (hlookup "value") (hlookup "values")
  | list _ h =>
    cases hvalue with
    | list hitems =>
      exact h.numbersFrom (fun part hpart => hitems part (List.mem_of_getElem? hpart))
        (fun part hpart => hitems part (List.mem_of_getElem? hpart))

end DocumentLeaf

namespace FilterDocument

theorem mem_nodesOfAll_iff (node : FilterDocument) (documents : List FilterDocument) :
    node ∈ nodesOfAll documents ↔ ∃ document ∈ documents, node ∈ document.nodes := by
  induction documents with
  | nil => simp [nodesOfAll]
  | cons document rest ih => simp [nodesOfAll, ih]

theorem exists_writes_of_mem {items : List Json.Value} {documents : List FilterDocument}
    (h : List.Forall₂ Writes items documents) {document : FilterDocument}
    (hmem : document ∈ documents) : ∃ item ∈ items, Writes item document := by
  induction h with
  | nil => cases hmem
  | cons hfirst _ ih =>
    rcases List.mem_cons.mp hmem with rfl | hlater
    · exact ⟨_, List.mem_cons_self, hfirst⟩
    · obtain ⟨item, hitem, hwrites⟩ := ih hlater
      exact ⟨item, List.mem_cons_of_mem _ hitem, hwrites⟩

theorem IsGroup.numbersFrom {tokens : List Token} {connective : Connective}
    {items : List Json.Value} {value : Json.Value} (h : IsGroup connective items value)
    (hvalue : value.NumbersFrom tokens) : ∀ item ∈ items, item.NumbersFrom tokens := by
  obtain ⟨members, rfl, -⟩ := id h
  cases hvalue with
  | object hmembers =>
    cases hmembers _ h.mem with
    | list hitems => exact hitems

/-- The comparisons of a document have their numbers from where the document's value has them. -/
theorem numbersFrom_of_writes {tokens : List Token} {document : FilterDocument} {value : Json.Value}
    (h : Writes value document) (hvalue : value.NumbersFrom tokens) :
    ∀ comparison, leaf comparison ∈ document.nodes → comparison.NumbersFrom tokens := by
  induction document using induction generalizing value with
  | leaf comparison =>
    cases h with
    | leaf _ h =>
      intro comparison' hmem
      obtain rfl : comparison' = comparison := by simpa [nodes] using hmem
      exact h.numbersFrom hvalue
  | group connective members ih =>
    cases h with
    | group hgroup hitems _ =>
      intro comparison hmem
      obtain ⟨member, hmember, hnode⟩ : ∃ member ∈ members, leaf comparison ∈ member.nodes := by
        simpa [nodes, mem_nodesOfAll_iff] using hmem
      obtain ⟨item, hitem, hwrites⟩ := exists_writes_of_mem hitems hmember
      exact ih member hmember hwrites (hgroup.numbersFrom hvalue item hitem) comparison hnode

/-- The numbers of a document's comparisons are those of literals in its text. -/
theorem numbersFrom_of_parse {text : String} {document : FilterDocument}
    (h : parse text = .ok document) :
    ∀ comparison, leaf comparison ∈ document.nodes →
      comparison.NumbersFrom (Json.tokens text.toList) := by
  cases hread : Json.read (Json.tokens text.toList) with
  | error failure => simp [parse, hread, bind, Except.bind] at h
  | ok result =>
    obtain ⟨value, rest⟩ := result
    rw [parse_of_read hread] at h
    cases hjson : ofJson? value with
    | none => simp [hjson] at h
    | some document' =>
      obtain rfl : document' = document := by
        cases rest <;> simp [hjson, Json.finish, Except.map] at h
        exact h
      exact numbersFrom_of_writes ((ofJson?_eq_some_iff value document').mp hjson)
        (Json.numbersFrom_of_read hread)

end FilterDocument

/-! ## Texts of floating-point numbers -/

/-- A floating-point number among those of literals is a number of 64 bits. -/
theorem Json.Value.NumbersFrom.exists_bits {tokens : List Token} {negative : Bool} {m : Magnitude}
    (h : (Json.Value.number (.float negative m)).NumbersFrom tokens) :
    (∃ literal, Token.number literal ∈ tokens ∧ literal.number = .ok (.float negative m) ∧
      literal.IsFloat) ∧
    ∃ bits : UInt64, FloatingPoint.Value.ofBits .double bits.toNat = .finite negative m := by
  cases h with
  | @number literal _ hmem hnumber =>
    obtain ⟨hfloat, -, hholds⟩ := Json.NumberLiteral.number_eq_float hnumber
    exact ⟨⟨literal, hmem, hnumber, hfloat⟩, hholds.exists_ofBits_eq negative⟩

/-- The text of a number in a document beside that of the same number as a comparand. -/
theorem Comparand.contrast {negative : Bool} {m : Magnitude} {bits : UInt64}
    (h : FloatingPoint.Value.ofBits .double bits.toNat = .finite negative m) :
    m.Contrast .double (Json.Number.float negative m).text (double bits).render := by
  rw [render, h]
  exact FloatingPoint.Layout.contrast .double negative m

namespace DocumentLeaf

/-- The comparison compares with a floating-point number. -/
def ComparesFloat (leaf : DocumentLeaf) (negative : Bool) (m : Magnitude) : Prop :=
  ∃ operator, Operator.ofName? leaf.op leaf.case = some operator ∧
    .number (.float negative m) ∈ leaf.comparedWith operator

/-- A comparison with a number is the one that the constructor makes of a comparand with the same
text. -/
theorem toFilter_eq_compare_iff {leaf : DocumentLeaf} {operator : Operator} {texts : List String}
    (htexts : scalarTexts? (leaf.comparedWith operator) = some texts)
    (hfilter : leaf.toFilter = .ok (.ofText (.name leaf.field) operator (Text.joined "," texts)))
    (hsingle : operator.isMembership = false) {n : Json.Number}
    (hn : .number n ∈ leaf.comparedWith operator) (comparand : Comparand) :
    leaf.toFilter = .ok (.compare (.name leaf.field) operator comparand) ↔
      n.text = comparand.render := by
  rw [comparedWith, hsingle, if_neg Bool.false_ne_true, List.mem_singleton] at hn
  rw [comparedWith, hsingle, if_neg Bool.false_ne_true, ← hn] at htexts
  obtain rfl : [n.text] = texts := Option.some.inj htexts
  rw [hfilter, Except.ok.injEq, Filter.compare, Filter.ofText, Filter.ofText, Filter.mk.injEq,
    and_iff_right rfl, and_iff_right rfl, operator.decorate_injective.eq_iff]
  simp [Text.joined]

end DocumentLeaf

namespace FilterDocument

/-- The floating-point numbers that a document compares with have the texts of the same numbers as
comparands. -/
def FloatsAsComparands (document : FilterDocument) : Prop :=
  ∀ comparison, leaf comparison ∈ document.nodes → ∀ negative m,
    comparison.ComparesFloat negative m → ∀ bits : UInt64,
      FloatingPoint.Value.ofBits .double bits.toNat = .finite negative m →
      (Json.Number.float negative m).text = (Comparand.double bits).render

/-- **Floating-point numbers of documents.** Each has a literal with a point, with an exponent, of
`-0` or beyond the integers, and is a number of 64 bits. Its text in the filter is that of the same
number as a comparand when it is plain, and only then; so is a comparison with it alone the one that
the constructor makes. Of the others, the very large and the very small ones have an exponent, and
the whole ones a trailing `.0`. -/
theorem parseFilter_floats {text : String} {document : FilterDocument} {filter : Filter}
    (hparse : parse text = .ok document) (hfilter : parseFilter text = .ok filter) :
    (document.FloatsAsComparands ↔ ∀ comparison, leaf comparison ∈ document.nodes →
      ∀ negative m, comparison.ComparesFloat negative m → m.IsPlain .double) ∧
    ∀ comparison, leaf comparison ∈ document.nodes → ∃ operator texts,
      Operator.ofName? comparison.op comparison.case = some operator ∧
      DocumentLeaf.scalarTexts? (comparison.comparedWith operator) = some texts ∧
      (leaf comparison).toFilter =
        .ok (.ofText (.name comparison.field) operator (Text.joined "," texts)) ∧
      ∀ negative m, .number (.float negative m) ∈ comparison.comparedWith operator →
        (∃ literal, Token.number literal ∈ Json.tokens text.toList ∧
          literal.number = .ok (.float negative m) ∧ literal.IsFloat) ∧
        ∃ bits : UInt64, FloatingPoint.Value.ofBits .double bits.toNat = .finite negative m ∧
          m.Contrast .double (Json.Number.float negative m).text (Comparand.double bits).render ∧
          (operator.isMembership = false → ((leaf comparison).toFilter =
            .ok (.compare (.name comparison.field) operator (.double bits)) ↔
              m.IsPlain .double)) := by
  have hnumbers := numbersFrom_of_parse hparse
  have hconvertible : document.Convertible := by
    obtain ⟨other, hother, hconvertible⟩ := (exists_parseFilter_iff text).mp ⟨filter, hfilter⟩
    obtain rfl : document = other := Except.ok.inj (hparse.symm.trans hother)
    exact hconvertible
  constructor
  · refine forall₂_congr fun comparison hmem => forall₂_congr fun negative m =>
      forall_congr' fun ⟨operator, hop, hvalue⟩ => ?_
    obtain ⟨-, bits, hbits⟩ := ((hnumbers comparison hmem).of_mem_comparedWith hvalue).exists_bits
    constructor
    · exact fun h => (Comparand.contrast hbits).eq_iff.mp (h bits hbits)
    · exact fun h bits hbits => (Comparand.contrast hbits).eq_iff.mpr h
  · intro comparison hmem
    have hsound : comparison.Convertible := hconvertible _ hmem
    obtain ⟨filter, hfilter⟩ := Option.isSome_iff_exists.mp
      ((DocumentLeaf.built?_isSome_iff comparison).mpr hsound)
    rw [← DocumentLeaf.toFilter_eq_ok_iff] at hfilter
    obtain ⟨operator, texts, hop, htexts, rfl⟩ := DocumentLeaf.toFilter_comparedWith hfilter
    refine ⟨operator, texts, hop, htexts, hfilter, fun negative m hvalue => ?_⟩
    obtain ⟨hliteral, bits, hbits⟩ :=
      ((hnumbers comparison hmem).of_mem_comparedWith hvalue).exists_bits
    have hcontrast := Comparand.contrast hbits
    refine ⟨hliteral, bits, hbits, hcontrast, fun hsingle => ?_⟩
    rw [toFilter, DocumentLeaf.toFilter_eq_compare_iff htexts hfilter hsingle hvalue,
      hcontrast.eq_iff]

/-- A comparison with `1e17`. -/
def manyVotes : DocumentLeaf where
  field := "votes"
  op := "equal"
  value := some (.number (.float false ⟨6250000000000000, 4⟩))
  values := none
  case := default

/-- A comparison with `1e17`, written out. -/
def manyVotesText : String :=
  "\x7b\"field\":\"votes\",\"op\":\"equal\",\"value\":1e17\x7d"

theorem parse_manyVotesText : parse manyVotesText = .ok (leaf manyVotes) := by
  have hread : Json.read (Json.tokens manyVotesText.toList) = .ok (.object [
      ("field", .string "votes"), ("op", .string "equal"),
      ("value", .number (.float false ⟨6250000000000000, 4⟩))], []) := by
    rfl
  rw [parse_of_read hread]
  rfl

theorem parseFilter_manyVotesText :
    parseFilter manyVotesText = .ok ⟨"votes", .equal, "1e+17"⟩ := by
  rw [parseFilter, parse_manyVotesText]
  rfl

theorem manyVotes_comparesFloat : manyVotes.ComparesFloat false ⟨6250000000000000, 4⟩ :=
  ⟨.equal, rfl, List.mem_singleton_self _⟩

theorem manyVotes_floats :
    parse manyVotesText = .ok (leaf manyVotes) ∧
      parseFilter manyVotesText = .ok ⟨"votes", .equal, "1e+17"⟩ ∧
      ¬ (leaf manyVotes).FloatsAsComparands := by
  obtain ⟨hplain, -⟩ := parseFilter_floats parse_manyVotesText parseFilter_manyVotesText
  refine ⟨parse_manyVotesText, parseFilter_manyVotesText, ?_⟩
  rw [hplain]
  intro h
  have hmoderate := (h manyVotes (by simp [nodes]) _ _ manyVotes_comparesFloat).2.1
  exact absurd hmoderate.2 (by decide)

/-- An exponent is written where the constructors write the digits. -/
theorem manyVotes_not_floatsAsComparands :
    ¬ ∀ text filter, parseFilter text = .ok filter →
      ∃ document, parse text = .ok document ∧ document.FloatsAsComparands := by
  intro h
  obtain ⟨document, hparse, hfloats⟩ := h _ _ parseFilter_manyVotesText
  obtain rfl : leaf manyVotes = document := Except.ok.inj (parse_manyVotesText.symm.trans hparse)
  have htext := hfloats manyVotes (by simp [nodes]) _ _ manyVotes_comparesFloat
    0x4376345785d8a000 rfl
  exact absurd htext (by decide)

end FilterDocument

end Apicalypse

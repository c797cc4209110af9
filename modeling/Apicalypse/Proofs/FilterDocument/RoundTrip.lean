import Apicalypse.Proofs.FilterDocument.Conversion
import Apicalypse.Proofs.FilterDocument.Matching
import Apicalypse.Proofs.Json.Scanning

/-!
# Writing filters and reading them back

* `Filter.Expression`: filters as the constructors make them, with groups of any length.
* `Comparand.WrittenAs`, `Expression.WrittenAs`: the JSON values that such an expression is written
  as. The members of a comparison stand in any order, and those that say nothing may be left out.
* `WrittenAs.converts`: such a value writes a document with the filter of the expression.
* `WrittenAs.integral`: its numbers are integers that are written without loss.
* `parseFilter_render_written`: its compact text is read as the filter of the expression.
-/

namespace Apicalypse

namespace Comparand

/-- How a comparand is written: an integer between `-2^63` and `2^64 - 1` as a number, a text as a
string, and a truth value and a missing value as words. -/
inductive WrittenAs : Comparand → Json.Value → Prop
  | text (content : String) : WrittenAs (.text content) (.string content)
  | boolean (value : Bool) : WrittenAs (.boolean value) (.boolean value)
  | absent : WrittenAs .absent .null
  | integer {type : IntegerType} {n : Int} {holds : type.Holds n}
      (hleast : -(Nat.pow 2 63 : Nat) ≤ n) (hgreatest : n < (Nat.pow 2 64 : Nat)) :
      WrittenAs (.integer type n holds) (.number (.integer n))

theorem WrittenAs.scalarText? {comparand : Comparand} {value : Json.Value}
    (h : comparand.WrittenAs value) :
    DocumentLeaf.scalarText? value = some comparand.render := by
  cases h with
  | boolean value => cases value <;> rfl
  | text | absent | integer => rfl

theorem WrittenAs.integral {comparand : Comparand} {value : Json.Value}
    (h : comparand.WrittenAs value) : value.Integral := by
  cases h with
  | text content => exact .string content
  | boolean value => exact .boolean value
  | absent => exact .null
  | integer hleast hgreatest => exact .integer hleast hgreatest

end Comparand

/-! ## Expressions -/

namespace Filter

/-- A filter as it is put together: a comparison with a value, one with a list of values, or a
group of at least one filter under a connective. -/
inductive Expression where
  | compare (field : String) (operator : Operator) (value : Comparand)
  | compareWithAll (field : String) (operator : Operator) (values : List Comparand)
  | joinAll (connective : Connective) (first : Expression) (rest : List Expression)

namespace Expression

theorem induction {P : Expression → Prop}
    (compare : ∀ field operator value, P (.compare field operator value))
    (compareWithAll : ∀ field operator values, P (.compareWithAll field operator values))
    (joinAll : ∀ connective first rest, P first → (∀ e ∈ rest, P e) →
      P (.joinAll connective first rest))
    (e : Expression) : P e := by
  match e with
  | .compare field operator value => exact compare field operator value
  | .compareWithAll field operator values => exact compareWithAll field operator values
  | .joinAll connective first rest =>
    exact joinAll connective first rest (induction compare compareWithAll joinAll first)
      fun e _ => induction compare compareWithAll joinAll e

mutual

/-- The filter that the constructors make. A field is one segment, and a group is joined from the
left. -/
def eval : Expression → Filter
  | compare field operator value => .compare (.name field) operator value
  | compareWithAll field operator values => .compareWithAll (.name field) operator values
  | joinAll connective first rest => (evalAll rest).foldl (Filter.join connective) first.eval

/-- The filters of several expressions. -/
def evalAll : List Expression → List Filter
  | [] => []
  | e :: rest => e.eval :: evalAll rest

end

/-- The members of a comparison, as far as they are written. -/
def membersOf (field : String) (operator : Operator) (value values case : Option Json.Value) :
    List (String × Json.Value) :=
  [("field", .string field), ("op", .string operator.name)] ++ (value.map ("value", ·)).toList ++
    (values.map ("values", ·)).toList ++ (case.map ("case", ·)).toList

/-- The part says the same as the value: it is that value, or left out where the value is what a
missing part stands for. -/
def Says (part : Option Json.Value) (value missing : Json.Value) : Prop :=
  part = some value ∨ part = none ∧ value = missing

/-- The JSON values that an expression is written as. The members of a comparison stand in any
order. What it compares with may be left out when it is `null`, and the case when it is the
sensitive one; the member for the other kind of comparand is left out or `null`. The case of an
operator without one may be any. -/
inductive WrittenAs : Expression → Json.Value → Prop
  | compare {field : String} {operator : Operator} {comparand : Comparand} {case : Case}
      {value : Json.Value} {valuePart valuesPart casePart : Option Json.Value}
      {members : List (String × Json.Value)}
      (hop : Operator.ofName? operator.name case = some operator)
      (hlogical : operator.isLogical = false) (hmember : operator.isMembership = false)
      (hvalue : comparand.WrittenAs value) (hvaluePart : Says valuePart value .null)
      (hvaluesPart : Says valuesPart .null .null)
      (hcasePart : Says casePart (.string case.name) (.string Case.sensitive.name))
      (horder : members.Perm (membersOf field operator valuePart valuesPart casePart)) :
      WrittenAs (.compare field operator comparand) (.object members)
  | compareWithAll {field : String} {operator : Operator} {comparands : List Comparand}
      {case : Case} {values : List Json.Value} {valuePart casePart : Option Json.Value}
      {members : List (String × Json.Value)}
      (hop : Operator.ofName? operator.name case = some operator)
      (hmember : operator.isMembership = true)
      (hvalues : List.Forall₂ Comparand.WrittenAs comparands values)
      (hvaluePart : Says valuePart .null .null)
      (hcasePart : Says casePart (.string case.name) (.string Case.sensitive.name))
      (horder : members.Perm (membersOf field operator valuePart (some (.list values)) casePart)) :
      WrittenAs (.compareWithAll field operator comparands) (.object members)
  | joinAll {connective : Connective} {first : Expression} {rest : List Expression}
      {value : Json.Value} {values : List Json.Value} (hfirst : WrittenAs first value)
      (hrest : List.Forall₂ WrittenAs rest values) :
      WrittenAs (.joinAll connective first rest)
        (.object [(connective.name, .list (value :: values))])

end Expression

end Filter

/-! ## The document of an expression -/

namespace Filter.Expression

open FilterDocument

theorem names_membersOf (field : String) (operator : Operator)
    (value values case : Option Json.Value) :
    ((membersOf field operator value values case).map (·.1)).Sublist
      ["field", "op", "value", "values", "case"] := by
  cases value <;> cases values <;> cases case <;> simp [membersOf]

theorem ofMembers_membersOf (field : String) (operator : Operator)
    (value values case : Option Json.Value) :
    DocumentLeaf.Parts.ofMembers (membersOf field operator value values case) =
      ⟨some (.string field), some (.string operator.name), value, values, case⟩ := by
  cases value <;> cases values <;> cases case <;> rfl

theorem Says.writesValue {part : Option Json.Value} {value : Json.Value}
    (h : Says part value .null) :
    DocumentLeaf.WritesOptional id part (DocumentLeaf.optional value) := by
  rw [← DocumentLeaf.bind_optional_eq_iff]
  rcases h with rfl | ⟨rfl, rfl⟩ <;> rfl

theorem Says.writesNoValues {part : Option Json.Value} (h : Says part .null .null) :
    DocumentLeaf.WritesOptional .list part none := by
  rcases h with rfl | ⟨rfl, -⟩
  · exact .null
  · exact .missing

theorem Says.writesCase {part : Option Json.Value} {case : Case}
    (h : Says part (.string case.name) (.string Case.sensitive.name)) :
    DocumentLeaf.WritesCase part case := by
  rcases h with rfl | ⟨rfl, hname⟩
  · exact .name case
  · cases case with
    | sensitive => exact .missing
    | insensitive => simp [Case.name] at hname

/-- Members in any order write the comparison that their parts say. -/
theorem writes_of_perm {field : String} {operator : Operator} {case : Case}
    {value : Option Json.Value} {values : Option (List Json.Value)}
    {valuePart valuesPart casePart : Option Json.Value} {members : List (String × Json.Value)}
    (hvalue : DocumentLeaf.WritesOptional id valuePart value)
    (hvalues : DocumentLeaf.WritesOptional .list valuesPart values)
    (hcase : DocumentLeaf.WritesCase casePart case)
    (horder : members.Perm (membersOf field operator valuePart valuesPart casePart)) :
    Writes (.object members) (.leaf ⟨field, operator.name, value, values, case⟩) := by
  have hsublist := names_membersOf field operator valuePart valuesPart casePart
  have hnodup : (members.map (·.1)).Nodup :=
    (horder.map _).nodup_iff.mpr (hsublist.nodup (by decide))
  have hnames (member) (h : member ∈ members) :
      member.1 ∈ ["field", "op", "value", "values", "case"] :=
    hsublist.subset (List.mem_map_of_mem (horder.subset h))
  refine .leaf (fun connective ⟨items, hgroup, _⟩ => ?_) (.object hnames hnodup ?_)
  · have := hnames _ hgroup.mem
    cases connective <;> simp [Connective.name] at this
  · rw [DocumentLeaf.Parts.ofMembers_perm horder hnodup, ofMembers_membersOf]
    exact ⟨rfl, rfl, hvalue, hvalues, hcase⟩

theorem toFilter_of_comparandText {comparison : DocumentLeaf} {operator : Operator}
    (hop : Operator.ofName? comparison.op comparison.case = some operator)
    (hlogical : operator.isLogical = false) {text : String}
    (htext : comparison.comparandText operator = .ok text) :
    (FilterDocument.leaf comparison).toFilter =
      .ok (Filter.ofText (.name comparison.field) operator text) := by
  rw [FilterDocument.toFilter, DocumentLeaf.toFilter, DocumentLeaf.operator?_of_ofName? hop,
    hlogical]
  simp only [Bool.false_eq_true, ↓reduceIte, htext]
  rfl

theorem toFilter_compare {operator : Operator} {case : Case}
    (hop : Operator.ofName? operator.name case = some operator)
    (hlogical : operator.isLogical = false) (hmember : operator.isMembership = false)
    {comparand : Comparand} {value : Json.Value} (hvalue : comparand.WrittenAs value)
    (field : String) :
    (FilterDocument.leaf ⟨field, operator.name, DocumentLeaf.optional value, none, case⟩).toFilter =
      .ok (Filter.compare (.name field) operator comparand) := by
  have htext : DocumentLeaf.comparandText
      ⟨field, operator.name, DocumentLeaf.optional value, none, case⟩ operator =
      .ok comparand.render := by
    rw [DocumentLeaf.comparandText, hmember]
    have hscalar := hvalue.scalarText?
    cases hvalue with
    | absent => rfl
    | text | boolean | integer => simp [DocumentLeaf.optional, hscalar]
  exact toFilter_of_comparandText hop hlogical htext

theorem scalarTexts?_of_written {comparands : List Comparand} {values : List Json.Value}
    (h : List.Forall₂ Comparand.WrittenAs comparands values) :
    DocumentLeaf.scalarTexts? values = some (comparands.map Comparand.render) := by
  induction h with
  | nil => rfl
  | cons hvalue _ ih =>
    rw [DocumentLeaf.scalarTexts?] at ih ⊢
    rw [List.mapM_cons, hvalue.scalarText?, ih]
    rfl

theorem toFilter_compareWithAll {operator : Operator} {case : Case}
    (hop : Operator.ofName? operator.name case = some operator)
    (hmember : operator.isMembership = true) {comparands : List Comparand}
    {values : List Json.Value} (hvalues : List.Forall₂ Comparand.WrittenAs comparands values)
    (field : String) (value : Option Json.Value) :
    (FilterDocument.leaf ⟨field, operator.name, value, some values, case⟩).toFilter =
      .ok (Filter.compareWithAll (.name field) operator comparands) := by
  have hlogical : operator.isLogical = false := by cases operator <;> first | rfl | cases hmember
  have htext : DocumentLeaf.comparandText ⟨field, operator.name, value, some values, case⟩
      operator = .ok (joinComparands comparands) := by
    rw [DocumentLeaf.comparandText, hmember]
    simp [scalarTexts?_of_written hvalues, joinComparands]
  exact toFilter_of_comparandText hop hlogical htext

/-- The value writes a document whose filter is that of the expression. -/
def Converts (e : Expression) (value : Json.Value) : Prop :=
  ∃ document, Writes value document ∧ document.toFilter = .ok e.eval

/-- Joining the documents of expressions is joining their filters from the left. -/
theorem exists_documents {es : List Expression} {values : List Json.Value}
    (h : List.Forall₂ Converts es values) : ∃ documents,
      List.Forall₂ Writes values documents ∧ ∀ connective joined,
        FilterDocument.joinAll connective joined documents =
          .ok ((evalAll es).foldl (Filter.join connective) joined) := by
  induction h with
  | nil => exact ⟨[], .nil, fun _ _ => rfl⟩
  | @cons e value es values hfirst _ ih =>
    obtain ⟨document, hwrites, hfilter⟩ := hfirst
    obtain ⟨documents, hrest, hjoin⟩ := ih
    refine ⟨document :: documents, .cons hwrites hrest, fun connective joined => ?_⟩
    rw [FilterDocument.joinAll, hfilter, evalAll, List.foldl_cons, ← hjoin]
    rfl

/-- The only member of an object makes a group of it. -/
theorem writes_group {connective : Connective} {items : List Json.Value}
    {documents : List FilterDocument} (h : List.Forall₂ Writes items documents) :
    Writes (.object [(connective.name, .list items)]) (.group connective documents) := by
  refine .group ⟨_, rfl, by simp⟩ h ?_
  rintro rfl ⟨_, hgroup, _⟩
  have := hgroup.mem
  simp [Connective.name] at this

theorem WrittenAs.converts {e : Expression} {value : Json.Value} (h : e.WrittenAs value) :
    e.Converts value := by
  -- `WrittenAs` holds of the members of a group through `Forall₂`, so the expression is taken
  -- apart and not the relation.
  induction e using Expression.induction generalizing value with
  | compare field operator comparand =>
    cases h with
    | compare hop hlogical hmember hvalue hvaluePart hvaluesPart hcasePart horder =>
      exact ⟨_, writes_of_perm hvaluePart.writesValue hvaluesPart.writesNoValues
        hcasePart.writesCase horder, toFilter_compare hop hlogical hmember hvalue field⟩
  | compareWithAll field operator comparands =>
    cases h with
    | compareWithAll hop hmember hvalues hvaluePart hcasePart horder =>
      exact ⟨_, writes_of_perm hvaluePart.writesValue (.present _ nofun) hcasePart.writesCase
        horder, toFilter_compareWithAll hop hmember hvalues field _⟩
  | joinAll connective first rest ihfirst ihrest =>
    cases h with
    | joinAll hfirst hrest =>
      obtain ⟨document, hwrites, hfilter⟩ := ihfirst hfirst
      have hconverts : List.Forall₂ Converts rest _ :=
        ((List.forall₂_and_left rest _).mpr ⟨ihrest, hrest⟩).imp fun _ _ h => h.1 h.2
      obtain ⟨documents, hdocuments, hjoin⟩ := exists_documents hconverts
      refine ⟨_, writes_group (.cons hwrites hdocuments), ?_⟩
      rw [FilterDocument.toFilter, hfilter, eval, ← hjoin]
      rfl

/-! ## The text of an expression -/

theorem integral_of_perm {field : String} {operator : Operator}
    {value values case : Option Json.Value} {members : List (String × Json.Value)}
    (hvalue : ∀ v ∈ value, v.Integral) (hvalues : ∀ v ∈ values, v.Integral)
    (hcase : ∀ v ∈ case, v.Integral)
    (horder : members.Perm (membersOf field operator value values case)) :
    (Json.Value.object members).Integral := by
  refine .object fun member h => ?_
  have hmem := horder.subset h
  simp only [membersOf, List.mem_append, List.mem_cons, List.not_mem_nil, or_false,
    Option.mem_toList, Option.map_eq_some_iff] at hmem
  rcases hmem with (((rfl | rfl) | ⟨v, hv, rfl⟩) | ⟨v, hv, rfl⟩) | ⟨v, hv, rfl⟩
  · exact .string field
  · exact .string operator.name
  · exact hvalue v hv
  · exact hvalues v hv
  · exact hcase v hv

theorem Says.integral {part : Option Json.Value} {value missing : Json.Value}
    (h : Says part value missing) (hvalue : value.Integral) : ∀ v ∈ part, v.Integral := by
  rcases h with rfl | ⟨rfl, -⟩
  · rintro _ ⟨⟩
    exact hvalue
  · exact nofun

theorem forall_integral {α : Type} {R : α → Json.Value → Prop} {as : List α}
    {values : List Json.Value} (hR : ∀ a ∈ as, ∀ {value}, R a value → value.Integral)
    (h : List.Forall₂ R as values) : ∀ value ∈ values, value.Integral := by
  induction h with
  | nil => simp
  | cons hfirst _ ih =>
    rw [List.forall_mem_cons] at hR
    exact List.forall_mem_cons.mpr ⟨hR.1 hfirst, ih hR.2⟩

theorem WrittenAs.integral {e : Expression} {value : Json.Value} (h : e.WrittenAs value) :
    value.Integral := by
  induction e using Expression.induction generalizing value with
  | compare field operator comparand =>
    cases h with
    | compare _ _ _ hvalue hvaluePart hvaluesPart hcasePart horder =>
      exact integral_of_perm (hvaluePart.integral hvalue.integral) (hvaluesPart.integral .null)
        (hcasePart.integral (.string _)) horder
  | compareWithAll field operator comparands =>
    cases h with
    | compareWithAll _ _ hvalues hvaluePart hcasePart horder =>
      refine integral_of_perm (hvaluePart.integral .null) ?_ (hcasePart.integral (.string _)) horder
      rintro _ ⟨⟩
      exact .list (forall_integral (fun _ _ => Comparand.WrittenAs.integral) hvalues)
  | joinAll connective first rest ihfirst ihrest =>
    cases h with
    | joinAll hfirst hrest =>
      have hitems := List.forall_mem_cons.mpr
        ⟨ihfirst hfirst, forall_integral (fun e he => ihrest e he) hrest⟩
      refine .object fun member h => ?_
      obtain rfl := List.mem_singleton.mp h
      exact .list hitems

end Filter.Expression

namespace FilterDocument

/-- **Writing a filter and reading it back.** The compact text of any value that an expression is
written as is read as the filter that the constructors make of the expression, when the lists and
objects of the value nest no deeper than a text may. -/
theorem parseFilter_render_written (e : Filter.Expression) (value : Json.Value)
    (h : e.WrittenAs value) (hdepth : value.depth ≤ 127) :
    parseFilter value.render = .ok e.eval := by
  obtain ⟨document, hwrites, hfilter⟩ := h.converts
  rw [parseFilter_of_read (h.integral.read_render hdepth),
    (ofJson?_eq_some_iff value document).mpr hwrites]
  exact hfilter

/-- A group with characters that must be escaped and with the outermost integers. -/
def outermost : Filter.Expression :=
  .joinAll .or (.compare "na\"me" (.contains .insensitive) (.text "\\ é\n\x01"))
    [.joinAll .and
      (.compareWithAll "id" .containsNone [.integer ⟨true, .w64⟩ (-9223372036854775808) (by decide),
        .integer ⟨false, .w64⟩ 18446744073709551615 (by decide), .boolean true, .absent]) [],
      .compareWithAll "" .containsAll []]

/-- A value that `outermost` is written as, with the members of each comparison in another
order. -/
def outermostValue : Json.Value :=
  .object [("or", .list [
    .object [("case", .string "insensitive"), ("values", .null),
      ("value", .string "\\ é\n\x01"), ("op", .string "contains"),
      ("field", .string "na\"me")],
    .object [("and", .list [
      .object [("values", .list [.number (.integer (-9223372036854775808)),
        .number (.integer 18446744073709551615), .boolean true, .null]), ("field", .string "id"),
        ("op", .string "contains_none"), ("value", .null)]])],
    .object [("case", .string "insensitive"), ("field", .string ""), ("op", .string "contains_all"),
      ("values", .list [])]])]

theorem outermost_read_back : outermost.WrittenAs outermostValue ∧ outermostValue.depth ≤ 127 ∧
    parseFilter outermostValue.render = .ok outermost.eval := by
  have hcontains : Operator.ofName? "contains" .insensitive = some (.contains .insensitive) := rfl
  have hnone : Operator.ofName? "contains_none" .sensitive = some .containsNone := rfl
  have hall : Operator.ofName? "contains_all" .insensitive = some .containsAll := rfl
  have hwritten : outermost.WrittenAs outermostValue := by
    refine .joinAll ?name (.cons (.joinAll ?ids .nil) (.cons ?nothing .nil))
    case name =>
      exact .compare hcontains rfl rfl (.text _) (.inl rfl) (.inl rfl) (.inl rfl)
        (List.reverse_perm _).symm
    case ids =>
      refine .compareWithAll hnone rfl ?_ (.inl rfl) (.inr ⟨rfl, rfl⟩)
        (List.perm_append_singleton _ _).symm
      exact .cons (.integer (by decide) (by decide)) (.cons (.integer (by decide) (by decide))
        (.cons (.boolean true) (.cons .absent .nil)))
    case nothing =>
      exact .compareWithAll hall rfl .nil (.inr ⟨rfl, rfl⟩) (.inl rfl)
        (List.perm_append_singleton _ _).symm
  have hdepth : outermostValue.depth ≤ 127 := by decide
  exact ⟨hwritten, hdepth, parseFilter_render_written _ _ hwritten hdepth⟩

end FilterDocument

end Apicalypse

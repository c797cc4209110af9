import Apicalypse.Proofs.FilterDocument.Matching
import Apicalypse.Proofs.Json.Spelling
import Mathlib.Data.List.Perm.Basic

/-!
# What the conversion sees of a value

* `DocumentLeaf.toFilter_congr`: the filter of a comparison depends on the texts of its values only.
* `FilterDocument.Aspect`, `FilterDocument.aspect`: all that matters of a JSON value, wherever in a
  document it stands.
* `aspect_list`, `aspect_object`: the aspect of a list or an object depends on those of the values
  in it only.
* `aspect_perm`: the aspect of an object does not depend on the order of its members.
-/

namespace Apicalypse

namespace DocumentLeaf

/-- The text of the comparand depends on the texts of the values only. -/
theorem comparandText_eq (leaf : DocumentLeaf) (operator : Operator) :
    leaf.comparandText operator =
      match operator.isMembership, leaf.values.map scalarTexts?,
        scalarText? (leaf.value.getD .null) with
      | true, none, _ => .error (.missingValues leaf.field leaf.op)
      | true, some (some texts), _ => .ok (Text.joined "," texts)
      | false, none, some text => .ok text
      | false, some _, _ => .error (.unexpectedValues leaf.field leaf.op)
      | _, _, _ => .error (.notScalar leaf.field) := by
  unfold comparandText
  cases operator.isMembership with
  | true =>
    cases leaf.values with
    | none => rfl
    | some values =>
      simp only [↓reduceIte, Option.map_some]
      cases scalarTexts? values <;> rfl
  | false =>
    cases leaf.values with
    | some values => rfl
    | none =>
      cases leaf.value with
      | none => rfl
      | some value =>
        simp only [Bool.false_eq_true, ↓reduceIte, Option.map_none, Option.getD_some]
        cases scalarText? value <;> rfl

theorem toFilter_congr (field op : String) (case : Case) {value value' : Option Json.Value}
    {values values' : Option (List Json.Value)}
    (hvalue : scalarText? (value.getD .null) = scalarText? (value'.getD .null))
    (hvalues : values.map scalarTexts? = values'.map scalarTexts?) :
    toFilter ⟨field, op, value, values, case⟩ = toFilter ⟨field, op, value', values', case⟩ := by
  have hoperator : operator? ⟨field, op, value, values, case⟩ =
      operator? ⟨field, op, value', values', case⟩ := rfl
  rw [toFilter, toFilter, hoperator]
  simp only [comparandText_eq, hvalue, hvalues]

end DocumentLeaf

namespace FilterDocument

/-- What depends on the image of one map only does so within an option. -/
theorem map_congr_of_map {α β γ : Type} {f : α → β} {g : α → γ}
    (h : ∀ a a', g a = g a' → f a = f a') {x x' : Option α} (hx : x.map g = x'.map g) :
    x.map f = x'.map f := by
  match x, x' with
  | none, none => rfl
  | none, some _ | some _, none => cases hx
  | some a, some a' => exact congrArg some (h a a' (Option.some.inj hx))

open DocumentLeaf

/-! ## Aspects -/

/-- What the conversion sees of a value. -/
structure Aspect where
  /-- An object of one member may name a case, but only when the member is `null`. -/
  isNull : Bool
  /-- The text of a field or of an operator. -/
  string? : Option String
  case? : Option Case
  /-- The text of a comparand. -/
  text? : Option String
  /-- The texts of an optional list of comparands. -/
  texts? : Option (Option (Option (List String)))
  /-- What becomes of the members of a group. -/
  filters? : Option (List (Except DocumentError Filter))
  /-- What becomes of a document. -/
  filter? : Option (Except DocumentError Filter)
  /-- A text that nests too deep is not read. -/
  depth : Nat

/-- The value is `null`. -/
def isNull : Json.Value → Bool
  | .null => true
  | _ => false

/-- The aspect of a value. -/
def aspect (value : Json.Value) : Aspect where
  isNull := isNull value
  string? := DocumentLeaf.string? value
  case? := DocumentLeaf.case? value
  text? := scalarText? value
  texts? := (optionalList? value).map (Option.map scalarTexts?)
  filters? := (listOf value).map (List.map toFilter)
  filter? := (ofJson? value).map toFilter
  depth := value.depth

theorem eq_null_of_aspect {value : Json.Value} (h : aspect value = aspect .null) :
    value = .null := by
  have hnull : isNull value = true := congrArg Aspect.isNull h
  cases value with
  | null => rfl
  | _ => cases hnull

/-! ### Comparisons -/

/-- The parts have the same aspects. -/
structure Resemble (parts parts' : Parts) : Prop where
  field : parts.field.map aspect = parts'.field.map aspect
  op : parts.op.map aspect = parts'.op.map aspect
  value : parts.value.map aspect = parts'.value.map aspect
  values : parts.values.map aspect = parts'.values.map aspect
  case : parts.case.map aspect = parts'.case.map aspect

variable {part part' : Option Json.Value}

theorem bind_string?_congr (h : part.map aspect = part'.map aspect) :
    part.bind DocumentLeaf.string? = part'.bind DocumentLeaf.string? := by
  have hbind (part : Option Json.Value) :
      part.bind DocumentLeaf.string? = (part.map aspect).bind Aspect.string? := by
    cases part <;> rfl
  rw [hbind, hbind, h]

theorem scalarText?_congr (h : part.map aspect = part'.map aspect) :
    scalarText? ((part.bind optional).getD .null) =
      scalarText? ((part'.bind optional).getD .null) := by
  have htext (part : Option Json.Value) : scalarText? ((part.bind optional).getD .null) =
      ((part.map aspect).map Aspect.text?).getD (some "null") := by
    cases part with
    | none => rfl
    | some value => cases value <;> rfl
  rw [htext, htext, h]

theorem list?_congr (h : part.map aspect = part'.map aspect) :
    (list? part).map (Option.map scalarTexts?) = (list? part').map (Option.map scalarTexts?) := by
  have hlist (part : Option Json.Value) : (list? part).map (Option.map scalarTexts?) =
      ((part.map aspect).map Aspect.texts?).getD (some none) := by cases part <;> rfl
  rw [hlist, hlist, h]

theorem partCase?_congr (h : part.map aspect = part'.map aspect) :
    partCase? part = partCase? part' := by
  have hcase (part : Option Json.Value) :
      partCase? part = ((part.map aspect).map Aspect.case?).getD (some default) := by
    cases part <;> rfl
  rw [hcase, hcase, h]

/-- The filter of a comparison depends on the aspects of its parts only. -/
theorem Resemble.toFilter {parts parts' : Parts} (h : Resemble parts parts') :
    (ofParts? parts).map DocumentLeaf.toFilter = (ofParts? parts').map DocumentLeaf.toFilter := by
  have hvalue := scalarText?_congr h.value
  have hlist := list?_congr h.values
  unfold ofParts?
  rw [bind_string?_congr h.field, bind_string?_congr h.op, partCase?_congr h.case]
  cases parts'.field.bind DocumentLeaf.string? with
  | none => rfl
  | some field =>
  cases parts'.op.bind DocumentLeaf.string? with
  | none => rfl
  | some op =>
  cases partCase? parts'.case with
  | none => cases list? parts.values <;> cases list? parts'.values <;> rfl
  | some case =>
  cases hvalues : list? parts.values <;> cases hvalues' : list? parts'.values <;>
    rw [hvalues, hvalues'] at hlist
  · rfl
  · cases hlist
  · cases hlist
  · exact congrArg some (toFilter_congr field op case hvalue (Option.some.inj hlist))

/-! ### Lists -/

theorem scalarTexts?_congr {items items' : List Json.Value}
    (h : items.map aspect = items'.map aspect) : scalarTexts? items = scalarTexts? items' := by
  have htexts (items : List Json.Value) :
      scalarTexts? items = (items.map aspect).mapM Aspect.text? := by
    rw [scalarTexts?]
    induction items with
    | nil => rfl
    | cons item rest ih =>
      rw [List.mapM_cons, ih, List.map_cons, List.mapM_cons]
      rfl
  rw [htexts, htexts, h]

theorem allOf_congr {items items' : List Json.Value} (h : items.map aspect = items'.map aspect) :
    (allOf items).map (List.map toFilter) = (allOf items').map (List.map toFilter) := by
  have hfilters (items : List Json.Value) : (allOf items).map (List.map toFilter) =
      (items.map aspect).mapM Aspect.filter? := by
    induction items with
    | nil => rfl
    | cons item rest ih =>
      rw [List.map_cons, List.mapM_cons, ← ih, allOf]
      cases hitem : ofJson? item <;> cases allOf rest <;> simp [aspect, hitem]
  rw [hfilters, hfilters, h]

theorem depthOfItems_congr {items items' : List Json.Value}
    (h : items.map aspect = items'.map aspect) :
    Json.Value.depthOfItems items = Json.Value.depthOfItems items' := by
  have hdepth (items : List Json.Value) :
      Json.Value.depthOfItems items = ((items.map aspect).map Aspect.depth).foldr max 0 := by
    induction items with
    | nil => rfl
    | cons item rest ih => rw [Json.Value.depthOfItems, ih]; rfl
  rw [hdepth, hdepth, h]

theorem ofItems?_congr {items items' : List Json.Value}
    (h : items.map aspect = items'.map aspect) :
    (ofItems? items).map DocumentLeaf.toFilter = (ofItems? items').map DocumentLeaf.toFilter := by
  have hlength : items.length = items'.length := by simpa using congrArg List.length h
  have hparts : Resemble (.ofItems items) (.ofItems items') := by
    constructor <;> simp only [Parts.ofItems, ← List.getElem?_map, h]
  rw [ofItems?_eq, ofItems?_eq, hlength]
  split
  case isTrue => exact hparts.toFilter
  case isFalse => rfl

theorem ofJson?_leaf (comparison? : Option DocumentLeaf) :
    (leaf <$> comparison?).map toFilter = comparison?.map DocumentLeaf.toFilter := by
  cases comparison? <;> rfl

/-- The aspect of a list depends on the aspects of its items only. -/
theorem aspect_list {items items' : List Json.Value} (h : items.map aspect = items'.map aspect) :
    aspect (.list items) = aspect (.list items') := by
  simp only [aspect, isNull, DocumentLeaf.string?, DocumentLeaf.case?, scalarText?, optionalList?,
    Option.map_some, listOf, ofJson?, ofJson?_leaf, Json.Value.depth, scalarTexts?_congr h,
    allOf_congr h, ofItems?_congr h, depthOfItems_congr h]

/-! ### Objects -/

/-- A member and what the conversion sees of its value. -/
def memberAspect (member : String × Json.Value) : String × Aspect := (member.1, aspect member.2)

variable {members members' : List (String × Json.Value)}

theorem lookup_memberAspect (name : String) (members : List (String × Json.Value)) :
    (members.lookup name).map aspect = (members.map memberAspect).lookup name := by
  induction members with
  | nil => rfl
  | cons member rest ih =>
    rw [List.map_cons, List.lookup_cons, List.lookup_cons, memberAspect, ← ih]
    cases name == member.1 <;> rfl

theorem map_name_congr (h : members.map memberAspect = members'.map memberAspect) :
    members.map (·.1) = members'.map (·.1) := by
  have hnames (members : List (String × Json.Value)) :
      members.map (·.1) = (members.map memberAspect).map (·.1) := by simp [memberAspect]
  rw [hnames, hnames, h]

theorem ofMembers?_congr (h : members.map memberAspect = members'.map memberAspect) :
    (ofMembers? members).map DocumentLeaf.toFilter =
      (ofMembers? members').map DocumentLeaf.toFilter := by
  have hparts : Resemble (.ofMembers members) (.ofMembers members') := by
    constructor <;> simp only [Parts.ofMembers, lookup_memberAspect, h]
  have hnames : (∀ member ∈ members, member.1 ∈ memberNames) ↔
      ∀ member ∈ members', member.1 ∈ memberNames := by
    have hmap (members : List (String × Json.Value)) :
        (∀ member ∈ members, member.1 ∈ memberNames) ↔
          ∀ name ∈ members.map (·.1), name ∈ memberNames := by simp
    rw [hmap, hmap, map_name_congr h]
  rw [ofMembers?_eq, ofMembers?_eq, map_name_congr h]
  simp only [hnames]
  split
  case isTrue => exact hparts.toFilter
  case isFalse => rfl

theorem documentsUnder?_congr (h : members.map memberAspect = members'.map memberAspect)
    (connective : Connective) : (documentsUnder? connective members).map (List.map toFilter) =
      (documentsUnder? connective members').map (List.map toFilter) := by
  have hgroups (members : List (String × Json.Value)) :
      (groups connective.name members).map (Option.map (List.map toFilter)) =
        ((members.map memberAspect).filter (·.1 = connective.name)).map (·.2.filters?) := by
    rw [groups_eq, List.filter_map, List.map_map, List.map_map]
    rfl
  have hunder (members : List (String × Json.Value))
      (filters : List (Except DocumentError Filter)) :
      (documentsUnder? connective members).map (List.map toFilter) = some filters ↔
        (groups connective.name members).map (Option.map (List.map toFilter)) =
          [some filters] := by
    simp only [List.map_eq_singleton_iff, Option.map_eq_some_iff,
      documentsUnder?_eq_some_iff_groups]
    constructor
    · rintro ⟨documents, hdocuments, hfilters⟩
      exact ⟨some documents, hdocuments, documents, rfl, hfilters⟩
    · rintro ⟨_, hdocuments, documents, rfl, hfilters⟩
      exact ⟨documents, hdocuments, hfilters⟩
  refine Option.ext fun filters => ?_
  rw [hunder, hunder, hgroups, hgroups, h]

theorem joinAll_congr (connective : Connective) {documents documents' : List FilterDocument}
    (h : documents.map toFilter = documents'.map toFilter) (joined : Filter) :
    joinAll connective joined documents = joinAll connective joined documents' := by
  induction documents generalizing documents' joined with
  | nil =>
    obtain rfl : documents' = [] := by simpa using h.symm
    rfl
  | cons document rest ih =>
    match documents' with
    | [] => cases h
    | document' :: rest' =>
      obtain ⟨hfirst, hrest⟩ := List.cons.inj h
      rw [joinAll, joinAll, hfirst]
      cases document'.toFilter with
      | error e => rfl
      | ok filter => exact ih hrest _

theorem toFilter_group_congr (connective : Connective) {documents documents' : List FilterDocument}
    (h : documents.map toFilter = documents'.map toFilter) :
    (group connective documents).toFilter = (group connective documents').toFilter := by
  match documents, documents' with
  | [], [] => rfl
  | [], _ :: _ | _ :: _, [] => cases h
  | first :: rest, first' :: rest' =>
    obtain ⟨hfirst, hrest⟩ := List.cons.inj h
    rw [toFilter, toFilter, hfirst]
    cases first'.toFilter with
    | error e => rfl
    | ok filter => exact joinAll_congr connective hrest filter

theorem choose_congr {documents? documents?' : Connective → Option (List FilterDocument)}
    {comparison? comparison?' : Option DocumentLeaf}
    (hdocuments : ∀ connective, (documents? connective).map (List.map toFilter) =
      (documents?' connective).map (List.map toFilter))
    (hcomparison : comparison?.map DocumentLeaf.toFilter =
      comparison?'.map DocumentLeaf.toFilter) :
    (choose documents? comparison?).map toFilter =
      (choose documents?' comparison?').map toFilter := by
  have hgroup (connective : Connective) :
      (documents? connective).map (fun documents => (group connective documents).toFilter) =
        (documents?' connective).map (fun documents => (group connective documents).toFilter) :=
    map_congr_of_map (fun _ _ => toFilter_group_congr connective) (hdocuments connective)
  have hchoose (documents? : Connective → Option (List FilterDocument))
      (comparison? : Option DocumentLeaf) : (choose documents? comparison?).map toFilter =
        ((documents? .and).map fun documents => (group .and documents).toFilter).or
          (((documents? .or).map fun documents => (group .or documents).toFilter).or
            (comparison?.map DocumentLeaf.toFilter)) := by
    rw [choose]
    cases documents? .and <;> cases documents? .or <;> cases comparison? <;> rfl
  rw [hchoose, hchoose, hgroup, hgroup, hcomparison]

theorem depthOfMembers_eq (members : List (String × Json.Value)) :
    Json.Value.depthOfMembers members =
      ((members.map memberAspect).map (·.2.depth)).foldr max 0 := by
  induction members with
  | nil => rfl
  | cons member rest ih =>
    obtain ⟨name, value⟩ := member
    rw [Json.Value.depthOfMembers, ih]
    rfl

theorem case?_object_congr (h : members.map memberAspect = members'.map memberAspect) :
    DocumentLeaf.case? (.object members) = DocumentLeaf.case? (.object members') := by
  have hcase (members : List (String × Json.Value)) (case : Case) :
      DocumentLeaf.case? (.object members) = some case ↔
        members.map memberAspect = [(case.name, aspect .null)] := by
    simp only [case?_eq_some_iff, reduceCtorEq, false_or, Json.Value.object.injEq,
      List.map_eq_singleton_iff, memberAspect]
    constructor
    · rintro rfl
      exact ⟨_, rfl, rfl⟩
    · rintro ⟨⟨name, value⟩, rfl, hmember⟩
      obtain ⟨rfl, haspect⟩ := Prod.mk.inj hmember
      obtain rfl : value = .null := eq_null_of_aspect haspect
      rfl
  refine Option.ext fun case => ?_
  rw [hcase, hcase, h]

/-- The aspect of an object depends on the aspects of its members only. -/
theorem aspect_object (h : members.map memberAspect = members'.map memberAspect) :
    aspect (.object members) = aspect (.object members') := by
  have hfilter := choose_congr (documentsUnder?_congr h) (ofMembers?_congr h)
  simp only [aspect, isNull, DocumentLeaf.string?, scalarText?, optionalList?, Option.map_none,
    listOf, Json.Value.depth, depthOfMembers_eq, h, ofJson?_object, hfilter, case?_object_congr h]

/-! ### Permuted members -/

theorem documentsUnder?_perm (h : members.Perm members') (connective : Connective) :
    documentsUnder? connective members = documentsUnder? connective members' := by
  have hgroups : (groups connective.name members).Perm (groups connective.name members') := by
    rw [groups_eq, groups_eq]
    exact (h.filter _).map _
  refine Option.ext fun documents => ?_
  rw [documentsUnder?_eq_some_iff_groups, documentsUnder?_eq_some_iff_groups,
    ← List.perm_singleton, ← List.perm_singleton]
  exact hgroups.congr_left _

theorem ofMembers?_perm (h : members.Perm members') : ofMembers? members = ofMembers? members' := by
  have hnames : (∀ member ∈ members, member.1 ∈ memberNames) ↔
      ∀ member ∈ members', member.1 ∈ memberNames := by simp only [h.mem_iff]
  rw [ofMembers?_eq, ofMembers?_eq]
  simp only [hnames, (h.map (·.1)).nodup_iff]
  split
  case isTrue hunique =>
    rw [Parts.ofMembers_perm h ((h.map (·.1)).nodup_iff.mpr hunique.2)]
  case isFalse => rfl

theorem case?_object_perm (h : members.Perm members') :
    DocumentLeaf.case? (.object members) = DocumentLeaf.case? (.object members') := by
  refine Option.ext fun case => ?_
  simp only [case?_eq_some_iff, reduceCtorEq, false_or, Json.Value.object.injEq]
  rw [← List.perm_singleton, ← List.perm_singleton]
  exact h.congr_left _

/-- The aspect of an object does not depend on the order of its members. -/
theorem aspect_perm (h : members.Perm members') :
    aspect (.object members) = aspect (.object members') := by
  have hdepth : Json.Value.depthOfMembers members = Json.Value.depthOfMembers members' := by
    rw [depthOfMembers_eq, depthOfMembers_eq]
    exact ((h.map _).map _).foldr_op_eq
  have hfilter : ofJson? (.object members) = ofJson? (.object members') := by
    rw [ofJson?_object, ofJson?_object, ofMembers?_perm h]
    simp only [documentsUnder?_perm h]
  simp only [aspect, isNull, DocumentLeaf.string?, scalarText?, optionalList?, Option.map_none,
    listOf, Json.Value.depth, hdepth, hfilter, case?_object_perm h]

end FilterDocument

end Apicalypse

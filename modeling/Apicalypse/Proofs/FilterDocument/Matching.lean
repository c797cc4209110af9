import Apicalypse.FilterDocument
import Apicalypse.Proofs.Json.Enumeration
import Mathlib.Data.List.Forall2

/-!
# The grammar of filter documents

Which JSON values are filter documents, and which document each of them is.

* `DocumentLeaf.Parts`, `Parts.Write`: the five parts of a comparison and what they say.
* `DocumentLeaf.WrittenBy`: a comparison is an object or a list of its parts.
* `FilterDocument.Matches`: the values that are documents.
* `FilterDocument.Writes`: the document of a value. A group of `and` comes before a group of `or`,
  and both before a comparison.
* `ofJson?_eq_some_iff`: matching finds that document.
* `matching_grammar`: the same for each of the three forms, and what becomes of a text whose value
  is no document.
-/

namespace Apicalypse

/-- In JSON the cases go by their names. -/
theorem Case.names_json (case : Case) : Case.json.names case = [case.name] := by
  cases case <;> rfl

theorem Case.ofName?_json_eq_some_iff (name : String) (case : Case) :
    Case.json.ofName? name = some case ↔ name = case.name := by
  have hall (case : Case) : case ∈ Case.json.values := by cases case <;> decide
  rw [Json.Enumeration.ofName?_eq_some_iff hall (by decide), names_json, List.mem_singleton]

/-! ## Comparisons -/

namespace DocumentLeaf

/-- How an optional part is written: left out, as `null`, or as something other than `null`. -/
inductive WritesOptional {α : Type} (write : α → Json.Value) :
    Option Json.Value → Option α → Prop
  | missing : WritesOptional write none none
  | null : WritesOptional write (some .null) none
  | present (a : α) (h : write a ≠ .null) : WritesOptional write (some (write a)) (some a)

/-- How a case is written: left out when it is the sensitive one, by its name, or as an object
whose only member has that name and is `null`. -/
inductive WritesCase : Option Json.Value → Case → Prop
  | missing : WritesCase none .sensitive
  | name (case : Case) : WritesCase (some (.string case.name)) case
  | member (case : Case) : WritesCase (some (.object [(case.name, .null)])) case

/-- The parts of a comparison, as far as they are there. -/
structure Parts where
  field : Option Json.Value
  op : Option Json.Value
  value : Option Json.Value
  values : Option Json.Value
  case : Option Json.Value

namespace Parts

/-- The members of an object by their names. -/
def ofMembers (members : List (String × Json.Value)) : Parts where
  field := members.lookup "field"
  op := members.lookup "op"
  value := members.lookup "value"
  values := members.lookup "values"
  case := members.lookup "case"

/-- The items of a list by their places. -/
def ofItems (items : List Json.Value) : Parts :=
  ⟨items[0]?, items[1]?, items[2]?, items[3]?, items[4]?⟩

/-- The parts say what the comparison is. -/
structure Write (parts : Parts) (leaf : DocumentLeaf) : Prop where
  field : parts.field = some (.string leaf.field)
  op : parts.op = some (.string leaf.op)
  value : WritesOptional id parts.value leaf.value
  values : WritesOptional .list parts.values leaf.values
  case : WritesCase parts.case leaf.case

end Parts

/-- The value is an object of the parts of a comparison, without other and without repeated
members, or a list of its parts from the first on. -/
inductive WrittenBy (leaf : DocumentLeaf) : Json.Value → Prop
  | object {members : List (String × Json.Value)}
      (hnames : ∀ member ∈ members, member.1 ∈ ["field", "op", "value", "values", "case"])
      (hnodup : (members.map (·.1)).Nodup) (h : (Parts.ofMembers members).Write leaf) :
      WrittenBy leaf (.object members)
  | list {items : List Json.Value} (hlength : items.length ≤ 5)
      (h : (Parts.ofItems items).Write leaf) : WrittenBy leaf (.list items)

/-! ### Reading the parts -/

theorem string?_eq_some_iff (value : Json.Value) (text : String) :
    string? value = some text ↔ value = .string text := by
  cases value <;> simp [string?]

theorem bind_optional_eq_iff (part value : Option Json.Value) :
    part.bind optional = value ↔ WritesOptional id part value := by
  constructor
  · rintro rfl
    match part with
    | none => exact .missing
    | some .null => exact .null
    | some (.boolean _) | some (.number _) | some (.string _) | some (.list _)
    | some (.object _) => exact .present _ nofun
  · rintro (_ | _ | ⟨value, hvalue⟩)
    · rfl
    · rfl
    · cases value <;> first | rfl | exact absurd rfl hvalue

/-- The list of an optional part, or nothing when the part is no list. -/
def list? : Option Json.Value → Option (Option (List Json.Value))
  | none => some none
  | some value => optionalList? value

theorem list?_eq_some_iff (part : Option Json.Value) (values : Option (List Json.Value)) :
    list? part = some values ↔ WritesOptional .list part values := by
  constructor
  · intro h
    match part with
    | none =>
      obtain rfl : none = values := by simpa [list?] using h
      exact .missing
    | some .null =>
      obtain rfl : none = values := by simpa [list?, optionalList?] using h
      exact .null
    | some (.list items) =>
      obtain rfl : some items = values := by simpa [list?, optionalList?] using h
      exact .present items nofun
    | some (.boolean _) | some (.number _) | some (.string _) | some (.object _) => cases h
  · rintro (_ | _ | _) <;> rfl

theorem case?_eq_some_iff (value : Json.Value) (case : Case) :
    case? value = some case ↔
      value = .string case.name ∨ value = .object [(case.name, .null)] := by
  constructor
  · intro h
    unfold case? at h
    split at h
    · exact .inl (congrArg Json.Value.string ((Case.ofName?_json_eq_some_iff _ _).mp h))
    · rw [(Case.ofName?_json_eq_some_iff _ _).mp h]
      exact .inr rfl
    · cases h
  · rintro (rfl | rfl) <;> exact (Case.ofName?_json_eq_some_iff _ _).mpr rfl

/-- The case of an optional part, or nothing when the part names no case. -/
def partCase? : Option Json.Value → Option Case
  | none => some default
  | some value => case? value

theorem partCase?_eq_some_iff (part : Option Json.Value) (case : Case) :
    partCase? part = some case ↔ WritesCase part case := by
  constructor
  · intro h
    match part with
    | none =>
      obtain rfl : Case.sensitive = case := Option.some.inj h
      exact .missing
    | some value =>
      rcases (case?_eq_some_iff value case).mp h with rfl | rfl
      · exact .name case
      · exact .member case
  · rintro (_ | _ | _)
    · rfl
    · exact (case?_eq_some_iff _ _).mpr (.inl rfl)
    · exact (case?_eq_some_iff _ _).mpr (.inr rfl)

/-- The comparison that the parts say. -/
def ofParts? (parts : Parts) : Option DocumentLeaf := do
  let field ← parts.field.bind string?
  let op ← parts.op.bind string?
  let values ← list? parts.values
  let case ← partCase? parts.case
  return ⟨field, op, parts.value.bind optional, values, case⟩

theorem ofParts?_eq_some_iff (parts : Parts) (leaf : DocumentLeaf) :
    ofParts? parts = some leaf ↔ parts.Write leaf := by
  simp only [ofParts?, Option.bind_eq_bind, Option.bind_eq_some_iff, string?_eq_some_iff,
    exists_eq_right, list?_eq_some_iff, partCase?_eq_some_iff, Option.pure_def, Option.some.injEq]
  constructor
  · rintro ⟨field, hfield, op, hop, values, hvalues, case, hcase, rfl⟩
    exact ⟨hfield, hop, (bind_optional_eq_iff _ _).mp rfl, hvalues, hcase⟩
  · intro h
    exact ⟨_, h.field, _, h.op, _, h.values, _, h.case, by
      rw [(bind_optional_eq_iff _ _).mpr h.value]⟩

theorem member?_eq_lookup (name : String) (members : List (String × Json.Value)) :
    member? name members = members.lookup name := by
  induction members with
  | nil => rfl
  | cons member rest ih =>
    obtain ⟨name', value⟩ := member
    rw [member?] at ih ⊢
    rw [List.lookup_cons]
    by_cases h : name' = name
    · simp [h]
    · have h' : (name == name') = false := by simpa using Ne.symm h
      simp [h, h', ih]

/-- Where no name repeats, the order of the members does not matter. -/
theorem Parts.ofMembers_perm {members members' : List (String × Json.Value)}
    (h : members.Perm members') (hnodup : (members.map (·.1)).Nodup) :
    ofMembers members = ofMembers members' := by
  have hlookup (name : String) : members.lookup name = members'.lookup name := by
    induction h with
    | nil => rfl
    | cons member _ ih =>
      rw [List.map_cons, List.nodup_cons] at hnodup
      rw [List.lookup_cons, List.lookup_cons, ih hnodup.2]
    | swap first second rest =>
      simp only [List.map_cons, List.nodup_cons, List.mem_cons, not_or] at hnodup
      have hne : (first.1 == second.1) = false := by simpa using Ne.symm hnodup.1.1
      rw [List.lookup_cons, List.lookup_cons, List.lookup_cons, List.lookup_cons]
      by_cases hname : name = first.1
      · simp only [hname, beq_self_eq_true, hne]
      · simp only [show (name == first.1) = false by simpa using hname]
    | trans hfirst _ ih ih' =>
      exact (ih hnodup).trans (ih' ((hfirst.map _).nodup hnodup))
  simp only [ofMembers, hlookup]

/-- An object is read by its parts, when it has no others and none twice. -/
theorem ofMembers?_eq (members : List (String × Json.Value)) : ofMembers? members =
    if (∀ member ∈ members, member.1 ∈ memberNames) ∧ (members.map (·.1)).Nodup then
      ofParts? (.ofMembers members) else none := by
  have hparts : ofParts? (.ofMembers members) = ofParts? ⟨member? "field" members,
      member? "op" members, member? "value" members, member? "values" members,
      member? "case" members⟩ := by
    simp only [member?_eq_lookup]
    rfl
  have hnames : ((members.map (·.1)).all (· ∈ memberNames) &&
      decide (members.map (·.1)).Nodup) = true ↔
      (∀ member ∈ members, member.1 ∈ memberNames) ∧ (members.map (·.1)).Nodup := by
    simp
  rw [ofMembers?, hparts]
  simp only [hnames]
  congr 1
  unfold ofParts?
  cases member? "field" members <;> cases member? "op" members <;>
    cases member? "values" members <;> cases member? "case" members <;> rfl

/-- A list is read by its parts, when it is no longer than they are. -/
theorem ofItems?_eq (items : List Json.Value) : ofItems? items =
    if items.length ≤ 5 then ofParts? (.ofItems items) else none := by
  match items with
  | [] | [_, _] | [_, _, _] | [_, _, _, _] | [_, _, _, _, _] => rfl
  | [field] => simp [ofItems?, ofParts?, Parts.ofItems]
  | _ :: _ :: _ :: _ :: _ :: _ :: _ => simp [ofItems?]

theorem ofMembers?_eq_some_iff (members : List (String × Json.Value)) (leaf : DocumentLeaf) :
    ofMembers? members = some leaf ↔ leaf.WrittenBy (.object members) := by
  rw [ofMembers?_eq]
  split
  case isTrue h =>
    rw [ofParts?_eq_some_iff]
    exact ⟨.object h.1 h.2, fun | .object _ _ h => h⟩
  case isFalse h => exact ⟨nofun, fun | .object hnames hnodup _ => absurd ⟨hnames, hnodup⟩ h⟩

theorem ofItems?_eq_some_iff (items : List Json.Value) (leaf : DocumentLeaf) :
    ofItems? items = some leaf ↔ leaf.WrittenBy (.list items) := by
  rw [ofItems?_eq]
  split
  case isTrue h =>
    rw [ofParts?_eq_some_iff]
    exact ⟨.list h, fun | .list _ h => h⟩
  case isFalse h => exact ⟨nofun, fun | .list hlength _ => absurd hlength h⟩

end DocumentLeaf

/-! ## Documents -/

namespace FilterDocument

/-- The value is an object with a single member of the connective's name, which is a list of the
items. Other members do not matter. -/
def IsGroup (connective : Connective) (items : List Json.Value) (value : Json.Value) : Prop :=
  ∃ members, value = .object members ∧
    members.filter (·.1 = connective.name) = [(connective.name, .list items)]

/-- The value is a document: a group of documents, or a comparison. -/
inductive Matches : Json.Value → Prop
  | group {connective : Connective} {items : List Json.Value} {value : Json.Value}
      (h : IsGroup connective items value) (hitems : ∀ item ∈ items, Matches item) : Matches value
  | leaf {comparison : DocumentLeaf} {value : Json.Value} (h : comparison.WrittenBy value) :
      Matches value

/-- The value is a group of documents under the connective. -/
def MatchesGroup (connective : Connective) (value : Json.Value) : Prop :=
  ∃ items, IsGroup connective items value ∧ ∀ item ∈ items, Matches item

/-- The value writes the document: a group of `and` if it is one, else a group of `or` if it is
one, else a comparison. -/
inductive Writes : Json.Value → FilterDocument → Prop
  | group {connective : Connective} {items : List Json.Value} {documents : List FilterDocument}
      {value : Json.Value} (h : IsGroup connective items value)
      (hitems : List.Forall₂ Writes items documents)
      (hfirst : connective = .or → ¬ MatchesGroup .and value) :
      Writes value (.group connective documents)
  | leaf {comparison : DocumentLeaf} {value : Json.Value}
      (hgroup : ∀ connective, ¬ MatchesGroup connective value) (h : comparison.WrittenBy value) :
      Writes value (.leaf comparison)

/-! ### The documents of a group -/

theorem groups_eq (name : String) (members : List (String × Json.Value)) :
    groups name members = (members.filter (·.1 = name)).map fun member => listOf member.2 := by
  induction members with
  | nil => rfl
  | cons member rest ih =>
    obtain ⟨name', value⟩ := member
    by_cases h : name' = name <;> simp [groups, groupOf, h, ih]

/-- The documents of the only member with the connective's name. -/
def documentsUnder? (connective : Connective) (members : List (String × Json.Value)) :
    Option (List FilterDocument) :=
  match groups connective.name members with
  | [some documents] => some documents
  | _ => none

/-- How a value is matched once its groups and its comparison are known: `and` before `or`, and
both before a comparison. -/
def choose (documents? : Connective → Option (List FilterDocument))
    (comparison? : Option DocumentLeaf) : Option FilterDocument :=
  match documents? .and, documents? .or with
  | some documents, _ => some (.group .and documents)
  | none, some documents => some (.group .or documents)
  | none, none => leaf <$> comparison?

theorem ofJson?_object (members : List (String × Json.Value)) : ofJson? (.object members) =
    choose (documentsUnder? · members) (DocumentLeaf.ofMembers? members) := by
  have hand : Connective.and.name = "and" := rfl
  have hor : Connective.or.name = "or" := rfl
  rw [ofJson?, choose, documentsUnder?, documentsUnder?, hand, hor]
  generalize groups "and" members = ands
  generalize groups "or" members = ors
  split <;> simp_all

theorem documentsUnder?_eq_some_iff_groups (connective : Connective)
    (members : List (String × Json.Value)) (documents : List FilterDocument) :
    documentsUnder? connective members = some documents ↔
      groups connective.name members = [some documents] := by
  rw [documentsUnder?]
  split <;> simp_all

theorem documentsUnder?_eq_some_iff (connective : Connective)
    (members : List (String × Json.Value)) (documents : List FilterDocument) :
    documentsUnder? connective members = some documents ↔ ∃ items,
      IsGroup connective items (.object members) ∧ allOf items = some documents := by
  rw [documentsUnder?_eq_some_iff_groups, groups_eq, List.map_eq_singleton_iff]
  constructor
  · rintro ⟨⟨name, value⟩, hfilter, hlist⟩
    obtain rfl : name = connective.name := by
      have hmem : (name, value) ∈ members.filter (·.1 = connective.name) := by simp [hfilter]
      simpa using (List.mem_filter.mp hmem).2
    cases value with
    | list items => exact ⟨items, ⟨members, rfl, hfilter⟩, hlist⟩
    | _ => cases hlist
  · rintro ⟨items, ⟨members', heq, hfilter⟩, hall⟩
    obtain rfl := Json.Value.object.inj heq
    exact ⟨_, hfilter, hall⟩

/-! ### Matching finds the document -/

/-- Matching a value finds the document that the value writes. -/
def Found (value : Json.Value) : Prop :=
  (∀ document, ofJson? value = some document ↔ Writes value document) ∧
    (Matches value ↔ ∃ document, ofJson? value = some document)

theorem allOf_eq_some_iff {items : List Json.Value} (h : ∀ item ∈ items, Found item)
    (documents : List FilterDocument) :
    allOf items = some documents ↔ List.Forall₂ Writes items documents := by
  induction items generalizing documents with
  | nil => simp [allOf, eq_comm]
  | cons item rest ih =>
    rw [List.forall_mem_cons] at h
    simp only [allOf, Option.bind_eq_bind, Option.bind_eq_some_iff, h.1.1, ih h.2,
      Option.pure_def, Option.some.injEq, List.forall₂_cons_left_iff]
    constructor
    · rintro ⟨document, hdocument, documents, hrest, rfl⟩
      exact ⟨document, documents, hdocument, hrest, rfl⟩
    · rintro ⟨document, documents, hdocument, hrest, rfl⟩
      exact ⟨document, hdocument, documents, hrest, rfl⟩

theorem matches_all_iff {items : List Json.Value} (h : ∀ item ∈ items, Found item) :
    (∀ item ∈ items, Matches item) ↔ ∃ documents, allOf items = some documents := by
  induction items with
  | nil => simp [allOf]
  | cons item rest ih =>
    rw [List.forall_mem_cons] at h
    rw [List.forall_mem_cons, ih h.2, h.1.2, allOf]
    cases ofJson? item <;> cases allOf rest <;> simp

theorem matches_iff (value : Json.Value) : Matches value ↔
    (∃ connective, MatchesGroup connective value) ∨ ∃ comparison : DocumentLeaf,
      comparison.WrittenBy value := by
  constructor
  · rintro (⟨h, hitems⟩ | h)
    · exact .inl ⟨_, _, h, hitems⟩
    · exact .inr ⟨_, h⟩
  · rintro (⟨connective, items, h, hitems⟩ | ⟨comparison, h⟩)
    · exact .group h hitems
    · exact .leaf h

/-- The choice among the three forms is the one of the grammar. -/
theorem found_of_choose {value : Json.Value}
    (documents? : Connective → Option (List FilterDocument)) {comparison? : Option DocumentLeaf}
    (hjson : ofJson? value = choose documents? comparison?)
    (hdocuments : ∀ connective documents, documents? connective = some documents ↔
      ∃ items, IsGroup connective items value ∧ List.Forall₂ Writes items documents)
    (hmatches : ∀ connective, MatchesGroup connective value ↔
      ∃ documents, documents? connective = some documents)
    (hcomparison : ∀ comparison, comparison? = some comparison ↔ comparison.WrittenBy value) :
    Found value := by
  have hnone {connective : Connective} :
      ¬ MatchesGroup connective value ↔ documents? connective = none := by
    rw [hmatches, ← Option.isSome_iff_exists, Option.not_isSome_iff_eq_none]
  constructor
  · intro document
    rw [hjson, choose]
    constructor
    · intro h
      split at h
      case h_1 _ documents hand =>
        obtain rfl := Option.some.inj h
        obtain ⟨items, hitems, hwrites⟩ := (hdocuments _ _).mp hand
        exact .group hitems hwrites nofun
      case h_2 documents hand hor =>
        obtain rfl := Option.some.inj h
        obtain ⟨items, hitems, hwrites⟩ := (hdocuments _ _).mp hor
        exact .group hitems hwrites fun _ => hnone.mpr hand
      case h_3 hand hor =>
        obtain ⟨comparison, hleaf, rfl⟩ := Option.map_eq_some_iff.mp h
        exact .leaf (fun | .and => hnone.mpr hand | .or => hnone.mpr hor)
          ((hcomparison _).mp hleaf)
    · rintro (⟨hitems, hwrites, hfirst⟩ | ⟨hgroup, hleaf⟩)
      case group connective items documents =>
        have hsome := (hdocuments _ _).mpr ⟨items, hitems, hwrites⟩
        cases connective with
        | and => rw [hsome]
        | or => rw [hnone.mp (hfirst rfl), hsome]
      case leaf comparison =>
        rw [hnone.mp (hgroup .and), hnone.mp (hgroup .or), (hcomparison _).mpr hleaf]
        rfl
  · rw [matches_iff, hjson, choose]
    constructor
    · rintro (⟨connective, h⟩ | ⟨comparison, h⟩)
      · obtain ⟨documents, hsome⟩ := (hmatches connective).mp h
        cases connective <;> split <;> simp_all
      · have hsome := (hcomparison comparison).mpr h
        split <;> simp [hsome]
    · rintro ⟨document, h⟩
      split at h
      case h_1 _ documents hand => exact .inl ⟨.and, (hmatches .and).mpr ⟨documents, hand⟩⟩
      case h_2 documents _ hor => exact .inl ⟨.or, (hmatches .or).mpr ⟨documents, hor⟩⟩
      case h_3 =>
        obtain ⟨comparison, hleaf, -⟩ := Option.map_eq_some_iff.mp h
        exact .inr ⟨comparison, (hcomparison comparison).mp hleaf⟩

theorem IsGroup.mem {connective : Connective} {items : List Json.Value}
    {members : List (String × Json.Value)} (h : IsGroup connective items (.object members)) :
    (connective.name, .list items) ∈ members := by
  obtain ⟨_, ⟨⟩, hfilter⟩ := h
  exact List.mem_of_mem_filter (hfilter ▸ List.mem_singleton_self _)

theorem found_object {members : List (String × Json.Value)}
    (ih : ∀ name items, (name, .list items) ∈ members → ∀ item ∈ items, Found item) :
    Found (.object members) := by
  refine found_of_choose _ (ofJson?_object members) (fun connective documents => ?_)
    (fun connective => ?_) (DocumentLeaf.ofMembers?_eq_some_iff members)
  · rw [documentsUnder?_eq_some_iff]
    exact exists_congr fun items => and_congr_right fun h =>
      allOf_eq_some_iff (ih _ _ h.mem) documents
  · simp only [documentsUnder?_eq_some_iff]
    rw [exists_comm]
    exact exists_congr fun items => by
      rw [exists_and_left]
      exact and_congr_right fun h => matches_all_iff (ih _ _ h.mem)

/-- A value that is no object writes a comparison or nothing. -/
theorem found_of_no_members {value : Json.Value} (comparison? : Option DocumentLeaf)
    (hvalue : ∀ members, value ≠ .object members) (hjson : ofJson? value = leaf <$> comparison?)
    (hcomparison : ∀ comparison, comparison? = some comparison ↔ comparison.WrittenBy value) :
    Found value := by
  have hgroup (connective : Connective) (items : List Json.Value) :
      ¬ IsGroup connective items value := fun ⟨members, h, _⟩ => hvalue members h
  exact found_of_choose (fun _ => none) hjson (by simp [hgroup])
    (by simp [MatchesGroup, hgroup]) hcomparison

/-- Matching finds the document of every value, and of every item of a list. -/
theorem found_deep (value : Json.Value) :
    Found value ∧ ∀ items, value = .list items → ∀ item ∈ items, Found item := by
  have hscalar {value : Json.Value} (hobject : ∀ members, value ≠ .object members)
      (hlist : ∀ items, value ≠ .list items) (hjson : ofJson? value = none) :
      Found value ∧ ∀ items, value = .list items → ∀ item ∈ items, Found item := by
    refine ⟨found_of_no_members none hobject hjson fun comparison => ?_,
      fun items h => absurd h (hlist items)⟩
    exact ⟨nofun, fun h => by cases h <;> simp_all⟩
  -- The documents of a group are the items of a member's list, two levels below the object.
  induction value using Json.Value.induction with
  | null | boolean _ | number _ | string _ => exact hscalar nofun nofun rfl
  | list items ih =>
    refine ⟨found_of_no_members _ nofun rfl (DocumentLeaf.ofItems?_eq_some_iff items), ?_⟩
    rintro _ ⟨⟩ item hitem
    exact (ih item hitem).1
  | object members ih =>
    refine ⟨found_object fun name items hmem => ?_, nofun⟩
    exact (ih (name, .list items) hmem).2 items rfl

/-- **Matching follows the grammar.** The document found in a value is the one that it writes. -/
theorem ofJson?_eq_some_iff (value : Json.Value) (document : FilterDocument) :
    ofJson? value = some document ↔ Writes value document := (found_deep value).1.1 document

theorem matchesGroup_iff (connective : Connective) (value : Json.Value) :
    MatchesGroup connective value ↔ ∃ items documents, IsGroup connective items value ∧
      List.Forall₂ Writes items documents := by
  refine exists_congr fun items => ?_
  have hfound : ∀ item ∈ items, Found item := fun item _ => (found_deep item).1
  rw [matches_all_iff hfound, exists_and_left]
  simp only [allOf_eq_some_iff hfound]

/-! ### Texts -/

/-- A text is matched once its value has been read, and before what follows the value. -/
theorem parse_of_read {text : String} {value : Json.Value} {rest : List Json.Token}
    (h : Json.read (Json.tokens text.toList) = .ok (value, rest)) : parse text =
      match ofJson? value with
      | none => .error .mismatch
      | some document => (Json.finish rest).map fun _ => document := by
  rw [parse, h]
  cases hjson : ofJson? value with
  | none => simp [bind, Except.bind, hjson, throw, throwThe, MonadExceptOf.throw]
  | some document =>
    cases rest <;> simp [bind, Except.bind, hjson, Json.finish, Except.map, pure, Except.pure]

theorem parseFilter_of_read {text : String} {value : Json.Value}
    (h : Json.read (Json.tokens text.toList) = .ok (value, [])) : parseFilter text =
      match ofJson? value with
      | none => .error (.json .mismatch)
      | some document => document.toFilter := by
  rw [parseFilter, parse_of_read h]
  cases ofJson? value <;> rfl

theorem parseFilter_of_not_matches {text : String} {value : Json.Value} {rest : List Json.Token}
    (h : Json.read (Json.tokens text.toList) = .ok (value, rest)) (hvalue : ¬ Matches value) :
    parseFilter text = .error (.json .mismatch) := by
  have hnone : ofJson? value = none := by
    rw [(found_deep value).1.2, ← Option.isSome_iff_exists] at hvalue
    exact Option.not_isSome_iff_eq_none.mp hvalue
  rw [parseFilter, parse_of_read h, hnone]
  rfl

/-- **Documents and their grammar.** The document found in a value is the one that it writes: a
group of `and` when it is one, whatever else it holds; else a group of `or` when it is one; else a
comparison when it is one. A text with any other value is refused for its shape, whatever follows
the value; one with a value that writes a document has that document's filter. -/
theorem matching_grammar :
    (∀ value document, ofJson? value = some document ↔ Writes value document) ∧
      (∀ value, (∃ document, ofJson? value = some document) ↔ Matches value) ∧
      (∀ value, (∃ documents, ofJson? value = some (group .and documents)) ↔
        MatchesGroup .and value) ∧
      (∀ value, (∃ documents, ofJson? value = some (group .or documents)) ↔
        ¬ MatchesGroup .and value ∧ MatchesGroup .or value) ∧
      (∀ value, (∃ comparison, ofJson? value = some (leaf comparison)) ↔
        ¬ MatchesGroup .and value ∧ ¬ MatchesGroup .or value ∧
          ∃ comparison : DocumentLeaf, comparison.WrittenBy value) ∧
      (∀ (text : String) (value : Json.Value) (rest : List Json.Token),
        Json.read (Json.tokens text.toList) = .ok (value, rest) → ¬ Matches value →
        parseFilter text = .error (.json .mismatch)) ∧
      ∀ (text : String) (value : Json.Value) (document : FilterDocument),
        Json.read (Json.tokens text.toList) = .ok (value, []) → Writes value document →
        parseFilter text = document.toFilter := by
  refine ⟨ofJson?_eq_some_iff, fun value => (found_deep value).1.2.symm, fun value => ?_,
    fun value => ?_, fun value => ?_, fun text value rest => parseFilter_of_not_matches,
    fun text value document hread hwrites => ?_⟩
  · simp only [ofJson?_eq_some_iff]
    rw [matchesGroup_iff]
    constructor
    · rintro ⟨documents, ⟨hitems, hwrites, -⟩⟩
      exact ⟨_, documents, hitems, hwrites⟩
    · rintro ⟨items, documents, hitems, hwrites⟩
      exact ⟨documents, .group hitems hwrites nofun⟩
  · simp only [ofJson?_eq_some_iff]
    rw [matchesGroup_iff .or]
    constructor
    · rintro ⟨documents, ⟨hitems, hwrites, hfirst⟩⟩
      exact ⟨hfirst rfl, _, documents, hitems, hwrites⟩
    · rintro ⟨hand, items, documents, hitems, hwrites⟩
      exact ⟨documents, .group hitems hwrites fun _ => hand⟩
  · simp only [ofJson?_eq_some_iff]
    constructor
    · rintro ⟨comparison, _ | ⟨hgroup, hleaf⟩⟩
      exact ⟨hgroup .and, hgroup .or, comparison, hleaf⟩
    · rintro ⟨hand, hor, comparison, hleaf⟩
      exact ⟨comparison, .leaf (fun | .and => hand | .or => hor) hleaf⟩
  · rw [parseFilter_of_read hread, (ofJson?_eq_some_iff value document).mpr hwrites]

/-- A group of `and` with a member `or` before it and a comparison's member after it. Its first
item is an object of parts, its second a list of them. -/
def crossed : Json.Value :=
  .object [("or", .list []),
    ("and", .list [
      .object [("case", .object [("insensitive", .null)]), ("op", .string "contains"),
        ("field", .string "name"), ("value", .string "x")],
      .list [.string "cover", .string "equal", .null]]),
    ("field", .null)]

/-- The text of `crossed`. -/
def crossedText : String :=
  "\x7b\"or\":[],\"and\":[\x7b\"case\":\x7b\"insensitive\":null\x7d,\"op\":\"contains\"," ++
  "\"field\":\"name\",\"value\":\"x\"\x7d,[\"cover\",\"equal\",null]],\"field\":null\x7d"

/-- A group with a comparison that has a member too many. -/
def spoilt : Json.Value :=
  .object [("or", .list [.object [("field", .string "a"), ("op", .string "equal"),
    ("note", .null)]])]

/-- The text of `spoilt`, and a bracket too many. -/
def spoiltText : String :=
  "\x7b\"or\":[\x7b\"field\":\"a\",\"op\":\"equal\",\"note\":null\x7d]\x7d]"

/-- The document of `crossed`. -/
def crossedDocument : FilterDocument :=
  group .and [leaf ⟨"name", "contains", some (.string "x"), none, .insensitive⟩,
    leaf ⟨"cover", "equal", none, none, .sensitive⟩]

theorem crossed_spoilt_grammar :
    Json.read (Json.tokens crossedText.toList) = .ok (crossed, []) ∧
      Writes crossed crossedDocument ∧ parseFilter crossedText = crossedDocument.toFilter ∧
      Json.read (Json.tokens spoiltText.toList) = .ok (spoilt, [.closeList]) ∧
      ¬ Matches spoilt ∧ parseFilter spoiltText = .error (.json .mismatch) := by
  obtain ⟨hwrites, hmatches, -, -, -, hrefused, haccepted⟩ := matching_grammar
  have hcrossed : Json.read (Json.tokens crossedText.toList) = .ok (crossed, []) := by
    conv => lhs; arg 1; cbv
    rfl
  have hspoilt : Json.read (Json.tokens spoiltText.toList) = .ok (spoilt, [.closeList]) := by
    conv => lhs; arg 1; cbv
    rfl
  have hdocument : Writes crossed crossedDocument := (hwrites _ _).mp rfl
  have hnone : ¬ Matches spoilt := by
    rw [← hmatches]
    rintro ⟨document, h⟩
    cases (rfl : ofJson? spoilt = none).symm.trans h
  exact ⟨hcrossed, hdocument, haccepted _ _ _ hcrossed hdocument, hspoilt, hnone,
    hrefused _ _ _ hspoilt hnone⟩

end FilterDocument

end Apicalypse

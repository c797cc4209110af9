import Apicalypse.Proofs.Json.Enumeration
import Apicalypse.Proofs.Text.Lowercase
import Apicalypse.Proofs.Text.Separated
import Apicalypse.Sorting

/-!
# Sorts as texts

Which texts name a sort, and what is wrong with the others.

* `SortOrder.names`, `SortOrder.parse?_eq_some_iff`, `SortOrder.ofName?_json_eq_some_iff`: a
  direction is known by either of its names, from a text in any case.
* `Sorting.WrittenBy`: the sort that a text names.
* `Sorting.Faulty`: what is wrong with a text that names none. The direction is looked at before
  the field.
* `Sorting.parse_of_not_mem`, `Sorting.parse_append`: reading a text without a colon, and one that
  is cut at its first colon.
* `Sorting.parse_grammar`: the sorts and the faults of all texts, and the faults in words.
-/

namespace Apicalypse

/-! ## Directions -/

namespace SortOrder

/-- The names of a direction, short and long. -/
def names : SortOrder → List String
  | ascending => ["asc", "ascending"]
  | descending => ["desc", "descending"]

/-- The text is a name of the direction but for the case of its ASCII letters. -/
def NamedBy (text : String) (order : SortOrder) : Prop :=
  ∃ name ∈ order.names, Text.IsCaseVariant text name

instance (text : String) (order : SortOrder) : Decidable (order.NamedBy text) :=
  inferInstanceAs (Decidable (∃ name ∈ order.names, Text.IsCaseVariant text name))

theorem isNameLetter_of_mem_names (order : SortOrder) :
    ∀ name ∈ order.names, ∀ d ∈ name.toList, Text.IsNameLetter d := by
  cases order <;> simp [names, Text.IsNameLetter]

/-- A direction is known by either of its names, in any case. -/
theorem parse?_eq_some_iff (text : String) (order : SortOrder) :
    parse? text = some order ↔ order.NamedBy text := by
  rw [NamedBy, ← Text.lowercase_mem_iff order.isNameLetter_of_mem_names, parse?]
  split <;> cases order <;> simp_all [names]

theorem parse?_eq_none_iff (text : String) :
    parse? text = none ↔ ∀ order : SortOrder, ¬ order.NamedBy text := by
  simp only [← parse?_eq_some_iff, Option.eq_none_iff_forall_ne_some, ne_eq]

/-- In JSON the directions go by the same names. -/
theorem names_json (order : SortOrder) : json.names order = order.names.reverse := by
  cases order <;> rfl

theorem ofName?_json_eq_some_iff (name : String) (order : SortOrder) :
    json.ofName? name = some order ↔ name ∈ order.names := by
  have hall (order : SortOrder) : order ∈ json.values := by cases order <;> decide
  rw [Json.Enumeration.ofName?_eq_some_iff hall (by decide), names_json, List.mem_reverse]

/-- The word of a direction in a query is one of its names. -/
theorem namedBy_token (order : SortOrder) : order.NamedBy order.token :=
  ⟨order.token, by cases order <;> simp [token, names], by cases order <;> rfl⟩

end SortOrder

namespace Sorting

/-! ## Grammar -/

/-- The text names the sort: by its field alone when it descends, or by the field, a colon and a
name of the direction. -/
def WrittenBy (text : String) (sort : Sorting) : Prop :=
  sort.field ≠ "" ∧ ':' ∉ sort.field.toList ∧
    (text = sort.field ∧ sort.order = .descending ∨
      ∃ direction, text = sort.field ++ ":" ++ direction ∧
        SortOrder.parse? direction = some sort.order)

/-- What is wrong with a text. What follows the first colon and is no direction is the fault,
whatever stands before the colon. -/
def Faulty (text : String) : ReadError → Prop
  | .unknownDirection direction =>
    (∃ field, ':' ∉ field.toList ∧ text = field ++ ":" ++ direction) ∧
      ∀ order : SortOrder, ¬ order.NamedBy direction
  | .emptyField =>
    text = "" ∨ ∃ (direction : String) (order : SortOrder),
      text = ":" ++ direction ∧ order.NamedBy direction

/-! ## Reading -/

/-- A text has no colon, or it is cut at the first one. -/
theorem not_mem_or_exists_append (text : String) : ':' ∉ text.toList ∨
    ∃ field direction, ':' ∉ field.toList ∧ text = field ++ ":" ++ direction := by
  cases h : Text.splitFirst? ':' text.toList with
  | none => exact .inl (Text.of_splitFirst?_eq_none h)
  | some sides =>
    obtain ⟨hfield, htext⟩ := Text.of_splitFirst?_eq_some h
    refine .inr ⟨String.ofList sides.1, String.ofList sides.2, by simpa using hfield, ?_⟩
    apply String.toList_inj.mp
    simp [htext]

theorem ofField_eq (field : String) (order : SortOrder) : ofField field.toList order =
    if field = "" then .error .emptyField else .ok ⟨field, order⟩ := by
  simp [ofField]

theorem parse_of_not_mem {text : String} (h : ':' ∉ text.toList) : parse text =
    if text = "" then .error .emptyField else .ok ⟨text, .descending⟩ := by
  have hsplit : Text.splitFirst? ':' text.toList = none := by
    rw [Option.eq_none_iff_forall_ne_some]
    intro sides hsides
    exact h (by simp [(Text.of_splitFirst?_eq_some hsides).2])
  rw [parse, hsplit]
  exact ofField_eq text .descending

theorem parse_append {field : String} (h : ':' ∉ field.toList) (direction : String) :
    parse (field ++ ":" ++ direction) = match SortOrder.parse? direction with
      | none => .error (.unknownDirection direction)
      | some order => if field = "" then .error .emptyField else .ok ⟨field, order⟩ := by
  have hsplit : Text.splitFirst? ':' (field ++ ":" ++ direction).toList =
      some (field.toList, direction.toList) := by
    simpa using Text.splitFirst?_append h direction.toList
  rw [parse, hsplit]
  simp only [String.ofList_toList, ofField_eq]
  cases SortOrder.parse? direction <;> rfl

theorem parse_eq_ok_iff {text : String} {sort : Sorting} :
    parse text = .ok sort ↔ sort.WrittenBy text := by
  constructor
  · intro h
    rcases not_mem_or_exists_append text with hcolon | ⟨field, direction, hcolon, rfl⟩
    · rw [parse_of_not_mem hcolon] at h
      split at h
      · cases h
      · next hne =>
        obtain rfl := Except.ok.inj h
        exact ⟨hne, hcolon, .inl ⟨rfl, rfl⟩⟩
    · rw [parse_append hcolon] at h
      split at h
      · cases h
      · next order hdirection =>
        split at h
        · cases h
        · next hne =>
          obtain rfl := Except.ok.inj h
          exact ⟨hne, hcolon, .inr ⟨direction, rfl, hdirection⟩⟩
  · obtain ⟨field, order⟩ := sort
    rintro ⟨hne, hcolon, ⟨rfl, rfl⟩ | ⟨direction, rfl, hdirection⟩⟩
    · rw [parse_of_not_mem hcolon, if_neg hne]
    · rw [parse_append hcolon, hdirection]
      exact if_neg hne

/-- A text that names no sort has one of the two faults. -/
theorem parse_eq_error_iff {text : String} {reason : ReadError} :
    parse text = .error reason ↔ Faulty text reason := by
  constructor
  · intro h
    rcases not_mem_or_exists_append text with hcolon | ⟨field, direction, hcolon, rfl⟩
    · rw [parse_of_not_mem hcolon] at h
      split at h
      · next hempty =>
        obtain rfl := Except.error.inj h
        exact .inl hempty
      · cases h
    · rw [parse_append hcolon] at h
      split at h
      · next hdirection =>
        obtain rfl := Except.error.inj h
        exact ⟨⟨field, hcolon, rfl⟩, (SortOrder.parse?_eq_none_iff direction).mp hdirection⟩
      · next order hdirection =>
        split at h
        · next hempty =>
          obtain rfl := Except.error.inj h
          exact .inr ⟨direction, order, by rw [hempty, String.empty_append],
            (SortOrder.parse?_eq_some_iff direction order).mp hdirection⟩
        · cases h
  · cases reason with
    | unknownDirection direction =>
      rintro ⟨⟨field, hcolon, rfl⟩, hnone⟩
      rw [parse_append hcolon, (SortOrder.parse?_eq_none_iff direction).mpr hnone]
    | emptyField =>
      rintro (rfl | ⟨direction, order, rfl, hnamed⟩)
      · rfl
      · have hdirection := (SortOrder.parse?_eq_some_iff direction order).mpr hnamed
        have hempty : ':' ∉ "".toList := by simp
        have hparse := parse_append hempty direction
        rwa [hdirection, String.empty_append] at hparse

/-- **Sorts as texts.** A text is a sort when it is a field alone, which then descends, or when what
stands before its first colon is a field and what follows is a name of a direction, in any case. A
field is never empty and holds no colon, and every sort by such a field is read from its field, a
colon and the word of its direction. All other texts are at fault: what follows the first colon
when it is no direction, and else the empty field. -/
theorem parse_grammar :
    (∀ (text : String) (sort : Sorting), parse text = .ok sort ↔
        (text ≠ "" ∧ ':' ∉ text.toList ∧ sort = ⟨text, .descending⟩) ∨
          (sort.field ≠ "" ∧ ':' ∉ sort.field.toList ∧ ∃ direction : String,
            text = sort.field ++ ":" ++ direction ∧
              ∃ name ∈ sort.order.names, Text.IsCaseVariant direction name)) ∧
      (∀ (text : String) (sort : Sorting), parse text = .ok sort →
        sort.field ≠ "" ∧ ':' ∉ sort.field.toList) ∧
      (∀ (field : String) (order : SortOrder), field ≠ "" → ':' ∉ field.toList →
        parse (field ++ ":" ++ order.token) = .ok ⟨field, order⟩) ∧
      (∀ (text : String) (reason : ReadError), parse text = .error reason ↔ Faulty text reason) ∧
      (∀ direction : String, (ReadError.unknownDirection direction).message =
        "unknown sort direction '" ++ direction ++ "'") ∧
      ReadError.emptyField.message = "sort field must not be empty" := by
  refine ⟨fun text sort => ?_, fun text sort h => ?_, fun field order hne hcolon => ?_,
    fun text reason => parse_eq_error_iff, fun direction => rfl, rfl⟩
  · obtain ⟨field, order⟩ := sort
    simp only [parse_eq_ok_iff, WrittenBy, SortOrder.parse?_eq_some_iff, SortOrder.NamedBy]
    constructor
    · rintro ⟨hne, hcolon, ⟨rfl, rfl⟩ | hdirection⟩
      · exact .inl ⟨hne, hcolon, rfl⟩
      · exact .inr ⟨hne, hcolon, hdirection⟩
    · rintro (⟨hne, hcolon, hsort⟩ | ⟨hne, hcolon, hdirection⟩)
      · obtain ⟨rfl, rfl⟩ := Sorting.mk.inj hsort
        exact ⟨hne, hcolon, .inl ⟨rfl, rfl⟩⟩
      · exact ⟨hne, hcolon, .inr hdirection⟩
  · obtain ⟨hne, hcolon, -⟩ := parse_eq_ok_iff.mp h
    exact ⟨hne, hcolon⟩
  · rw [parse_append hcolon, (SortOrder.parse?_eq_some_iff _ order).mpr order.namedBy_token]
    exact if_neg hne

theorem colons_grammar :
    parse "rating:DeScending" = .ok ⟨"rating", .descending⟩ ∧
      parse ("a b" ++ ":" ++ SortOrder.ascending.token) = .ok ⟨"a b", .ascending⟩ ∧
      parse "::asc" = .error (.unknownDirection ":asc") ∧ parse ":asc" = .error .emptyField := by
  have hrating : parse "rating:DeScending" = .ok ⟨"rating", .descending⟩ :=
    (parse_grammar.1 _ _).mpr (.inr ⟨by decide, by decide, "DeScending", by decide, "descending",
      by decide, by decide⟩)
  have hblank := parse_grammar.2.2.1 "a b" .ascending (by decide) (by decide)
  have hcolons : parse "::asc" = .error (.unknownDirection ":asc") :=
    (parse_grammar.2.2.2.1 _ _).mpr ⟨⟨"", by decide, by decide⟩, fun order => by
      cases order <;> decide⟩
  have hempty : parse ":asc" = .error .emptyField :=
    (parse_grammar.2.2.2.1 _ _).mpr (.inr ⟨"asc", .ascending, by decide, by decide⟩)
  exact ⟨hrating, hblank, hcolons, hempty⟩

end Sorting

end Apicalypse

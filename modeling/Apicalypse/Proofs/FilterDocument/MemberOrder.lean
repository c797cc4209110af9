import Apicalypse.Proofs.FilterDocument.Aspect

/-!
# The order of members

* `Json.Spelling.Rearranged`: the members of any objects, at any depth, stand in another order.
* `aspect_rearranged`: the conversion sees no difference between such spellings.
* `parseFilter_rearranged`: a text yields the same filter or the same error when its members are
  rearranged.
-/

namespace Apicalypse

namespace Json.Spelling

/-- The members of any objects, at any depth, stand in another order. Lists keep theirs. -/
inductive Rearranged : Spelling → Spelling → Prop
  | refl (spelling : Spelling) : Rearranged spelling spelling
  | trans {first second third : Spelling} (h : Rearranged first second)
      (h' : Rearranged second third) : Rearranged first third
  | permuted {members members' : List (StringLiteral × Spelling)} (h : members.Perm members') :
      Rearranged (.object members) (.object members')
  | item {item item' : Spelling} (h : Rearranged item item') (before after : List Spelling) :
      Rearranged (.list (before ++ item :: after)) (.list (before ++ item' :: after))
  | member {value value' : Spelling} (h : Rearranged value value') (name : StringLiteral)
      (before after : List (StringLiteral × Spelling)) :
      Rearranged (.object (before ++ (name, value) :: after))
        (.object (before ++ (name, value') :: after))

end Json.Spelling

namespace FilterDocument

open Json

/-! ## The values of rearranged spellings -/

theorem values?_congr {item item' : Spelling}
    (h : item.value?.map aspect = item'.value?.map aspect) (before after : List Spelling) :
    (Spelling.values? (before ++ item :: after)).map (List.map aspect) =
      (Spelling.values? (before ++ item' :: after)).map (List.map aspect) := by
  have hcons (item : Spelling) (rest : List Spelling) :
      (Spelling.values? (item :: rest)).map (List.map aspect) = do
        let first ← item.value?.map aspect
        let later ← (Spelling.values? rest).map (List.map aspect)
        return first :: later := by
    rw [Spelling.values?]
    cases item.value? <;> cases Spelling.values? rest <;> rfl
  induction before with
  | nil => rw [List.nil_append, List.nil_append, hcons, hcons, h]
  | cons first before ih => rw [List.cons_append, List.cons_append, hcons, hcons, ih]

theorem members?_congr {value value' : Spelling}
    (h : value.value?.map aspect = value'.value?.map aspect) (name : StringLiteral)
    (before after : List (StringLiteral × Spelling)) :
    (Spelling.members? (before ++ (name, value) :: after)).map (List.map memberAspect) =
      (Spelling.members? (before ++ (name, value') :: after)).map (List.map memberAspect) := by
  have hcons (name : StringLiteral) (value : Spelling) (rest : List (StringLiteral × Spelling)) :
      (Spelling.members? ((name, value) :: rest)).map (List.map memberAspect) = do
        let name ← name.text.toOption
        let first ← value.value?.map aspect
        let later ← (Spelling.members? rest).map (List.map memberAspect)
        return (name, first) :: later := by
    rw [Spelling.members?, Spelling.member?]
    cases name.text.toOption <;> cases value.value? <;> cases Spelling.members? rest <;> rfl
  induction before with
  | nil => rw [List.nil_append, List.nil_append, hcons, hcons, h]
  | cons first before ih => rw [List.cons_append, List.cons_append, hcons, hcons, ih]

theorem members?_eq_some_iff (spellings : List (StringLiteral × Spelling))
    (members : List (String × Value)) : Spelling.members? spellings = some members ↔
      List.Forall₂ (Spelling.member? · = some ·) spellings members := by
  induction spellings generalizing members with
  | nil => simp [Spelling.members?, eq_comm]
  | cons spelling rest ih =>
    simp only [Spelling.members?, Option.bind_eq_bind, Option.bind_eq_some_iff, ih,
      Option.pure_def, Option.some.injEq, List.forall₂_cons_left_iff]
    constructor
    · rintro ⟨member, hmember, members, hrest, rfl⟩
      exact ⟨member, members, hmember, hrest, rfl⟩
    · rintro ⟨member, members, hmember, hrest, rfl⟩
      exact ⟨member, hmember, members, hrest, rfl⟩

/-- Spellings of permuted members are spellings of the members permuted. -/
theorem members?_perm {spellings spellings' : List (StringLiteral × Spelling)}
    (h : spellings.Perm spellings') {members : List (String × Value)}
    (hmembers : Spelling.members? spellings = some members) :
    ∃ members', Spelling.members? spellings' = some members' ∧ members.Perm members' := by
  simp only [members?_eq_some_iff] at hmembers ⊢
  obtain ⟨members', hmembers', hperm⟩ := List.perm_comp_forall₂ h.symm hmembers
  exact ⟨members', hmembers', hperm.symm⟩

theorem aspect_permuted {spellings spellings' : List (StringLiteral × Spelling)}
    (h : spellings.Perm spellings') :
    (Spelling.object spellings).value?.map aspect =
      (Spelling.object spellings').value?.map aspect := by
  rw [Spelling.value?, Spelling.value?]
  cases hmembers : Spelling.members? spellings with
  | some members =>
    obtain ⟨members', hmembers', hperm⟩ := members?_perm h hmembers
    rw [hmembers', Option.map_some, Option.map_some, Option.map_some, Option.map_some,
      aspect_perm hperm]
  | none =>
    cases hmembers' : Spelling.members? spellings' with
    | none => rfl
    | some members' =>
      obtain ⟨members, hsome, -⟩ := members?_perm h.symm hmembers'
      rw [hmembers] at hsome
      cases hsome

/-- The conversion sees no difference between a spelling and a rearranged one. -/
theorem aspect_rearranged {spelling spelling' : Spelling} (h : spelling.Rearranged spelling') :
    spelling.value?.map aspect = spelling'.value?.map aspect := by
  induction h with
  | refl => rfl
  | trans _ _ ih ih' => exact ih.trans ih'
  | permuted h => exact aspect_permuted h
  | item _ before after ih =>
    have hitems := values?_congr ih before after
    simp only [Spelling.value?, Option.map_map]
    exact map_congr_of_map (fun _ _ => aspect_list) hitems
  | member _ name before after ih =>
    have hmembers := members?_congr ih name before after
    simp only [Spelling.value?, Option.map_map]
    exact map_congr_of_map (fun _ _ => aspect_object) hmembers

/-! ## Texts -/

/-- The text is a JSON value and nothing more. -/
def Readable (text : String) : Prop :=
  ∃ value, Json.read (tokens text.toList) = .ok (value, [])

theorem parseFilter_eq_of_read {text : String} {value : Value}
    (h : Json.read (tokens text.toList) = .ok (value, [])) :
    parseFilter text = (aspect value).filter?.getD (.error (.json .mismatch)) := by
  rw [parseFilter_of_read h, aspect]
  cases ofJson? value <;> rfl

/-- **The order of members does not matter.** A text that can be read is spelt in some way. When
the members of its objects are rearranged it can still be read, and it yields the same filter or
the same error. -/
theorem parseFilter_rearranged :
    (∀ text, Readable text → ∃ spelling : Spelling, tokens text.toList = spelling.tokens) ∧
      ∀ (text text' : String) (spelling spelling' : Spelling), Readable text →
        tokens text.toList = spelling.tokens → tokens text'.toList = spelling'.tokens →
        spelling.Rearranged spelling' →
        Readable text' ∧ parseFilter text' = parseFilter text := by
  constructor
  · rintro text ⟨value, hread⟩
    obtain ⟨spelling, htokens, -, -⟩ := (read_eq_ok_iff _ _ _).mp hread
    exact ⟨spelling, by simpa using htokens⟩
  · rintro text text' spelling spelling' ⟨value, hread⟩ htokens htokens' hrearranged
    have hspelt := hread
    rw [htokens, ← List.append_nil spelling.tokens, read_tokens_eq_ok_iff] at hspelt
    obtain ⟨hvalue, hdepth, -⟩ := hspelt
    have haspect := aspect_rearranged hrearranged
    rw [hvalue] at haspect
    obtain ⟨value', hvalue', heq⟩ := Option.map_eq_some_iff.mp haspect.symm
    have hdepth' : value'.depth = value.depth := congrArg Aspect.depth heq
    have hread' : Json.read (tokens text'.toList) = .ok (value', []) := by
      rw [htokens', ← List.append_nil spelling'.tokens, read_tokens_eq_ok_iff, hdepth']
      exact ⟨hvalue', hdepth, rfl⟩
    refine ⟨⟨value', hread'⟩, ?_⟩
    rw [parseFilter_eq_of_read hread', parseFilter_eq_of_read hread, heq]

/-- The literal of a text without escapes. -/
def plain (text : String) : StringLiteral := ⟨text.toList.map .char, none⟩

/-- An object that is no group of `and`, but one of `or`, with a comparison that has an object for
its value. -/
def muddled : Spelling :=
  .object [
    (plain "and", .list [.object [(plain "field", .string (plain "a"))]]),
    (plain "note", .null),
    (plain "or", .list [.object [
      (plain "field", .string (plain "b")), (plain "op", .string (plain "equal")),
      (plain "value", .object [(plain "k", .null), (plain "l", .list [])])]]),
    (plain "note", .boolean true)]

/-- The same object with its members in other orders. -/
def rearranged : Spelling :=
  .object [
    (plain "note", .boolean true),
    (plain "or", .list [.object [
      (plain "value", .object [(plain "l", .list []), (plain "k", .null)]),
      (plain "op", .string (plain "equal")), (plain "field", .string (plain "b"))]]),
    (plain "note", .null),
    (plain "and", .list [.object [(plain "field", .string (plain "a"))]])]

/-- The text of `muddled`. -/
def muddledText : String :=
  "\x7b\"and\":[\x7b\"field\":\"a\"\x7d],\"note\":null,\"or\":[\x7b\"field\":\"b\"," ++
  "\"op\":\"equal\",\"value\":\x7b\"k\":null,\"l\":[]\x7d\x7d],\"note\":true\x7d"

/-- The text of `rearranged`. -/
def rearrangedText : String :=
  "\x7b\"note\":true,\"or\":[\x7b\"value\":\x7b\"l\":[],\"k\":null\x7d,\"op\":\"equal\"," ++
  "\"field\":\"b\"\x7d],\"note\":null,\"and\":[\x7b\"field\":\"a\"\x7d]\x7d"

theorem muddled_rearranged : Readable muddledText ∧ tokens muddledText.toList = muddled.tokens ∧
    tokens rearrangedText.toList = rearranged.tokens ∧ muddled.Rearranged rearranged ∧
    Readable rearrangedText ∧ parseFilter rearrangedText = parseFilter muddledText := by
  have htokens : tokens muddledText.toList = muddled.tokens := by cbv
  have hread : Readable muddledText := by
    refine ⟨.object [("and", .list [.object [("field", .string "a")]]), ("note", .null),
      ("or", .list [.object [("field", .string "b"), ("op", .string "equal"),
        ("value", .object [("k", .null), ("l", .list [])])]]), ("note", .boolean true)], ?_⟩
    rw [htokens]
    rfl
  have htokens' : tokens rearrangedText.toList = rearranged.tokens := by cbv
  have hrearranged : muddled.Rearranged rearranged := by
    have hobject := Spelling.Rearranged.permuted
      (.swap (plain "l", .list []) (plain "k", Spelling.null) [])
    have hcomparison := (Spelling.Rearranged.member hobject (plain "value")
      [(plain "field", .string (plain "b")), (plain "op", .string (plain "equal"))] []).trans
      (.permuted (List.reverse_perm _).symm)
    exact (Spelling.Rearranged.member (.item hcomparison [] []) (plain "or") [_, _] [_]).trans
      (.permuted (List.reverse_perm _).symm)
  exact ⟨hread, htokens, htokens', hrearranged,
    parseFilter_rearranged.2 _ _ _ _ hread htokens htokens' hrearranged⟩

end FilterDocument

end Apicalypse

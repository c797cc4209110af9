import Apicalypse.Proofs.Json.Shape
import Apicalypse.Proofs.Json.Skipping
import Apicalypse.Proofs.Settings
import Mathlib.Tactic.MkIffOfInductiveProp

/-!
# Settings in JSON

Which objects and lists are settings, and that settings are read back from what they are written as.

* `valuesUnder`: the values of the members with a name.
* `SaidBy`: the members say the settings. Each part is said at most once, and the other members do
  not matter. `SaidAfter` says the same from any member on.
* `Found.readMembers_eq_ok_iff`: reading members, by induction on them.
* `read_list_eq_ok_iff`: reading the list of both parts.
* `tokens_render_toJson`: the members that settings are written as.
* `read_json`: what is read of the texts of all objects and lists.
-/

namespace Apicalypse

namespace Json

/-- The values of the members with a name, in their order. -/
def valuesUnder (name : String) (members : List (StringLiteral × Spelling)) : List Spelling :=
  (members.filter (·.1.text.toOption = some name)).map (·.2)

theorem valuesUnder_cons {literal : StringLiteral} {text : String} (h : literal.text = .ok text)
    (name : String) (value : Spelling) (members : List (StringLiteral × Spelling)) :
    valuesUnder name ((literal, value) :: members) =
      if text = name then value :: valuesUnder name members else valuesUnder name members := by
  by_cases hname : text = name <;> simp [valuesUnder, h, hname, Except.toOption]

end Json

namespace Settings

open Json (Spelling StringLiteral Token Unbroken valuesUnder)

/-! ## What members say -/

section

variable {α : Type} (means : α → Spelling → Prop) (missing : α)

/-- The part is what was found before, or else what the only value means, or else the default. -/
def Says : Option α → List Spelling → α → Prop
  | none, [], x => x = missing
  | none, [value], x => means x value
  | some found, [], x => x = found
  | _, _, _ => False

/-- A value counts when nothing was found before it. -/
theorem says_cons (found : Option α) (value : Spelling) (values : List Spelling) (x : α) :
    Says means missing found (value :: values) x ↔
      found = none ∧ ∃ y, means y value ∧ Says means missing (some y) values x := by
  cases found <;> cases values <;> simp [Says]

/-- No part is said twice. -/
theorem Says.length_le_one {found : Option α} {values : List Spelling} {x : α}
    (h : Says means missing found values x) : values.length ≤ 1 := by
  match values with
  | [] => exact Nat.zero_le 1
  | [value] => exact Nat.le_refl 1
  | value :: value' :: values =>
    obtain ⟨-, y, -, hlater⟩ := (says_cons means missing found value (value' :: values) x).mp h
    exact absurd ((says_cons means missing (some y) value' values x).mp hlater).1 nofun

theorem says_nil (found : Option α) (x : α) :
    Says means missing found [] x ↔ x = found.getD missing := by
  cases found <;> simp [Says]

end

/-- The value names the tier. -/
def SaysTier (tier : Tier) (value : Spelling) : Prop := value.Names tier.name

/-- The value is the limit. -/
def SaysLimit (limit : Option UInt64) (value : Spelling) : Prop := value.WritesWord limit

/-- The members say the settings, given what was found before them. -/
@[mk_iff]
structure SaidAfter (found : Found) (members : List (StringLiteral × Spelling))
    (settings : Settings) : Prop where
  /-- All names can be read. -/
  names : ∀ member ∈ members, ∃ name, member.1.text = .ok name
  tier : Says SaysTier .free found.tier (valuesUnder "tier" members) settings.tier
  limit : Says SaysLimit none found.limit (valuesUnder "default_limit" members)
    settings.defaultLimit

/-- What is found after a member. -/
def Found.Gains (found : Found) (name : String) (value : Spelling) (found' : Found) : Prop :=
  if name = "tier" then
    found.tier = none ∧ ∃ tier, SaysTier tier value ∧ found' = { found with tier := some tier }
  else if name = "default_limit" then
    found.limit = none ∧
      ∃ limit, SaysLimit limit value ∧ found' = { found with limit := some limit }
  else found' = found

theorem saidAfter_nil (found : Found) (settings : Settings) :
    SaidAfter found [] settings ↔ settings = found.settings := by
  obtain ⟨tier, limit⟩ := settings
  rw [saidAfter_iff, valuesUnder, valuesUnder, List.filter_nil, List.filter_nil, List.map_nil,
    says_nil, says_nil, Found.settings, Settings.mk.injEq]
  simp [default]

/-- What members say is what the later ones say, given what is found after the first. -/
theorem saidAfter_cons (found : Found) (literal : StringLiteral) (value : Spelling)
    (members : List (StringLiteral × Spelling)) (settings : Settings) :
    SaidAfter found ((literal, value) :: members) settings ↔ ∃ name, literal.text = .ok name ∧
      ∃ found', found.Gains name value found' ∧ SaidAfter found' members settings := by
  rw [saidAfter_iff, List.forall_mem_cons]
  cases h : literal.text with
  | error failure => simp
  | ok name =>
    simp only [Except.ok.injEq, exists_eq', exists_eq_left', true_and, Json.valuesUnder_cons h]
    unfold Found.Gains
    split
    · next htier =>
      rw [if_neg (by rw [htier]; decide), says_cons]
      constructor
      · rintro ⟨hnames, ⟨hfound, tier, hvalue, hsays⟩, hlimit⟩
        exact ⟨_, ⟨hfound, tier, hvalue, rfl⟩, hnames, hsays, hlimit⟩
      · rintro ⟨_, ⟨hfound, tier, hvalue, rfl⟩, hnames, hsays, hlimit⟩
        exact ⟨hnames, ⟨hfound, tier, hvalue, hsays⟩, hlimit⟩
    · split
      · rw [says_cons]
        constructor
        · rintro ⟨hnames, htier, hfound, limit, hvalue, hsays⟩
          exact ⟨_, ⟨hfound, limit, hvalue, rfl⟩, hnames, htier, hsays⟩
        · rintro ⟨_, ⟨hfound, limit, hvalue, rfl⟩, hnames, htier, hsays⟩
          exact ⟨hnames, htier, hfound, limit, hvalue, hsays⟩
      · simp only [exists_eq_left, saidAfter_iff]

/-! ## Reading members -/

theorem Found.readMember_eq_ok_iff {value : Spelling} (hvalue : Unbroken value.tokens)
    (found : Found) (name : String) (later : List Token) (found' : Found) (rest : List Token) :
    found.readMember name (.colon :: (value.tokens ++ later)) = .ok (found', rest) ↔
      found.Gains name value found' ∧ later = rest := by
  unfold Found.readMember Found.Gains
  split
  · cases found.tier with
    | some tier => simp
    | none =>
      simp only [Option.isSome_none, Bool.false_eq_true, ↓reduceIte, Json.expect,
        Json.bind_eq_ok_iff, Except.ok.injEq, exists_eq_left', Prod.exists,
        Json.Enumeration.read, Json.readNamed_tokens_eq_ok_iff, Tier.ofName?_json_eq_some_iff,
        SaysTier]
      constructor
      · rintro ⟨tier, _, ⟨⟨_, hnames, rfl⟩, rfl⟩, heq⟩
        obtain ⟨rfl, rfl⟩ := Prod.mk.inj (Except.ok.inj heq)
        exact ⟨⟨trivial, tier, hnames, rfl⟩, rfl⟩
      · rintro ⟨⟨-, tier, hnames, rfl⟩, rfl⟩
        exact ⟨tier, later, ⟨⟨_, hnames, rfl⟩, rfl⟩, rfl⟩
  · split
    · cases found.limit with
      | some limit => simp
      | none =>
        simp only [Option.isSome_none, Bool.false_eq_true, ↓reduceIte, Json.expect,
          Json.bind_eq_ok_iff, Except.ok.injEq, exists_eq_left', Prod.exists,
          Json.readWord?_tokens_eq_ok_iff, SaysLimit]
        constructor
        · rintro ⟨limit, _, ⟨hlimit, rfl⟩, heq⟩
          obtain ⟨rfl, rfl⟩ := Prod.mk.inj (Except.ok.inj heq)
          exact ⟨⟨trivial, limit, hlimit, rfl⟩, rfl⟩
        · rintro ⟨⟨-, limit, hlimit, rfl⟩, rfl⟩
          exact ⟨limit, later, ⟨hlimit, rfl⟩, rfl⟩
    · simp only [Json.expect, ↓reduceIte, Json.bind_eq_ok_iff, Except.ok.injEq, exists_eq_left',
        Json.skip_tokens hvalue]
      simp [pure, Except.pure, eq_comm]

/-- Reading a member and what follows it. -/
theorem Found.readMembers_memberTokens_eq_ok_iff {value : Spelling} (hvalue : Unbroken value.tokens)
    (found : Found) (literal : StringLiteral) (later : List Token) (n : Nat)
    (result : Settings × List Token) :
    found.readMembers (Spelling.memberTokens (literal, value) ++ later) (n + 1) = .ok result ↔
      ∃ name, literal.text = .ok name ∧ ∃ found', found.Gains name value found' ∧
        ((∃ rest, later = .closeObject :: rest ∧ (found'.settings, rest) = result) ∨
          ∃ rest, later = .comma :: rest ∧ found'.readMembers rest n = .ok result) := by
  simp only [Spelling.memberTokens, List.cons_append, Found.readMembers, Json.readName,
    Json.bind_eq_ok_iff, Prod.exists]
  constructor
  · rintro ⟨name, _, ⟨text, htext, hname⟩, found', more, hmember, hmore⟩
    obtain ⟨rfl, rfl⟩ := Prod.mk.inj (Except.ok.inj hname)
    obtain ⟨hgains, rfl⟩ := (found.readMember_eq_ok_iff hvalue text later found' more).mp hmember
    refine ⟨text, htext, found', hgains, ?_⟩
    split at hmore
    · cases hmore
    · next rest => exact .inl ⟨rest, rfl, Except.ok.inj hmore⟩
    · next rest => exact .inr ⟨rest, rfl, hmore⟩
    · cases hmore
  · rintro ⟨name, htext, found', hgains, hmore⟩
    refine ⟨name, _, ⟨name, htext, rfl⟩, found', later,
      (found.readMember_eq_ok_iff hvalue name later found' later).mpr ⟨hgains, rfl⟩, ?_⟩
    obtain ⟨rest, rfl, rfl⟩ | ⟨rest, rfl, hrest⟩ := hmore
    · rfl
    · exact hrest

/-- **Reading members.** From any member on, reading gives what this and the later ones say, given
what was found before. -/
theorem Found.readMembers_eq_ok_iff (found : Found) (first : StringLiteral × Spelling)
    (members : List (StringLiteral × Spelling))
    (h : Unbroken (Spelling.memberTokens first ++ Spelling.tokensAfterMember members))
    (later : List Token) {n : Nat} (hn : members.length < n) (settings : Settings)
    (rest : List Token) :
    found.readMembers
        (Spelling.memberTokens first ++ (Spelling.tokensAfterMember members ++ later)) n =
        .ok (settings, rest) ↔
      SaidAfter found (first :: members) settings ∧ later = rest := by
  induction members generalizing found first n with
  | nil =>
    obtain ⟨n, rfl⟩ : ∃ m, n = m + 1 := ⟨n - 1, by omega⟩
    rw [Json.unbroken_append, Json.unbroken_memberTokens] at h
    rw [readMembers_memberTokens_eq_ok_iff h.1.2, saidAfter_cons]
    simp only [Spelling.tokensAfterMember, saidAfter_nil]
    constructor
    · rintro ⟨name, hname, found', hgains, ⟨_, ⟨⟩, ⟨⟩⟩ | ⟨_, ⟨⟩, _⟩⟩
      exact ⟨⟨name, hname, found', hgains, rfl⟩, rfl⟩
    · rintro ⟨⟨name, hname, found', hgains, rfl⟩, rfl⟩
      exact ⟨name, hname, found', hgains, .inl ⟨later, rfl, rfl⟩⟩
  | cons next members ih =>
    obtain ⟨n, rfl⟩ : ∃ m, n = m + 1 := ⟨n - 1, by omega⟩
    rw [Spelling.tokensAfterMember, Json.unbroken_append, Json.unbroken_memberTokens,
      Json.unbroken_cons] at h
    have ih (found : Found) := ih found next h.2.2 (by simpa using hn)
    rw [readMembers_memberTokens_eq_ok_iff h.1.2, saidAfter_cons]
    simp only [Spelling.tokensAfterMember, List.cons_append, List.append_assoc]
    constructor
    · rintro ⟨name, hname, found', hgains, ⟨_, ⟨⟩, _⟩ | ⟨_, ⟨⟩, hread⟩⟩
      obtain ⟨hsaid, rfl⟩ := (ih found').mp hread
      exact ⟨⟨name, hname, found', hgains, hsaid⟩, rfl⟩
    · rintro ⟨⟨name, hname, found', hgains, hsaid⟩, rfl⟩
      exact ⟨name, hname, found', hgains, .inr ⟨_, rfl, (ih found').mpr ⟨hsaid, rfl⟩⟩⟩

/-- The members say the settings. -/
def SaidBy (members : List (StringLiteral × Spelling)) (settings : Settings) : Prop :=
  SaidAfter ⟨none, none⟩ members settings

/-- The items say the settings: they are the tier and the limit. -/
def Listed (items : List Spelling) (settings : Settings) : Prop :=
  ∃ tier limit, items = [tier, limit] ∧ SaysTier settings.tier tier ∧
    SaysLimit settings.defaultLimit limit

theorem length_lt_length_tokensAfterMember (members : List (StringLiteral × Spelling)) :
    members.length < (Spelling.tokensAfterMember members).length := by
  induction members with
  | nil => exact Nat.zero_lt_one
  | cons member members ih =>
    rw [Spelling.tokensAfterMember, List.length_cons, List.length_cons, List.length_append]
    omega

theorem read_object_eq_ok_iff {members : List (StringLiteral × Spelling)}
    (h : Unbroken (Spelling.object members).tokens) (later : List Token) (settings : Settings)
    (rest : List Token) : read ((Spelling.object members).tokens ++ later) = .ok (settings, rest) ↔
      SaidBy members settings ∧ later = rest := by
  match members with
  | [] =>
    rw [SaidBy, saidAfter_nil, eq_comm (b := Found.settings _)]
    simp [Spelling.tokens, read, Found.settings, default]
  | (literal, value) :: members =>
    rw [Spelling.tokens, Json.unbroken_cons] at h
    have hlength := length_lt_length_tokensAfterMember members
    have hread := Found.readMembers_eq_ok_iff ⟨none, none⟩ (literal, value) members h.2 later
      (n := (Spelling.memberTokens (literal, value) ++
        (Spelling.tokensAfterMember members ++ later)).length)
      (by simp only [List.length_append]; omega) settings rest
    rw [Spelling.tokens, List.cons_append, List.append_assoc]
    exact hread

theorem head?_tokens_ne_closeList (spelling : Spelling) (later : List Token) :
    (spelling.tokens ++ later).head? ≠ some .closeList := by
  obtain ⟨token, tokens, htokens, htoken⟩ := Json.Reading.exists_tokens_cons spelling
  simp [htokens, htoken]

theorem read_list_eq_ok_iff (items : List Spelling) (later : List Token) (settings : Settings)
    (rest : List Token) : read ((Spelling.list items).tokens ++ later) = .ok (settings, rest) ↔
      Listed items settings ∧ later = rest := by
  obtain ⟨tier, limit⟩ := settings
  cases items with
  | nil => simp [Spelling.tokens, read, readItems, Listed]
  | cons first items =>
    rw [Spelling.tokens, List.cons_append, List.append_assoc, read, readItems,
      if_neg (head?_tokens_ne_closeList first _)]
    simp only [Json.bind_eq_ok_iff, Prod.exists, Json.Enumeration.read,
      Json.readNamed_tokens_eq_ok_iff, Tier.ofName?_json_eq_some_iff]
    cases items with
    | nil => simp [Spelling.tokensAfterItem, Listed, throw, throwThe, MonadExceptOf.throw]
    | cons second items =>
      simp only [Spelling.tokensAfterItem, List.cons_append, List.append_assoc, Listed]
      constructor
      · rintro ⟨tier', _, ⟨⟨_, hnames, rfl⟩, rfl⟩, hitems⟩
        simp only [if_neg (head?_tokens_ne_closeList second _), Json.bind_eq_ok_iff, Prod.exists,
          Json.readWord?_tokens_eq_ok_iff] at hitems
        obtain ⟨limit', _, ⟨hlimit, rfl⟩, after, hclose, hsettings⟩ := hitems
        cases hsettings
        cases items with
        | nil =>
          obtain rfl := Except.ok.inj hclose
          exact ⟨⟨first, second, rfl, hnames, hlimit⟩, rfl⟩
        | cons third items => cases hclose
      · rintro ⟨⟨_, _, heq, hnames, hlimit⟩, rfl⟩
        obtain ⟨rfl, rfl, rfl⟩ := heq
        refine ⟨tier, _, ⟨⟨_, hnames, rfl⟩, rfl⟩, ?_⟩
        simp only [if_neg (head?_tokens_ne_closeList second _), Json.bind_eq_ok_iff, Prod.exists,
          Json.readWord?_tokens_eq_ok_iff]
        exact ⟨limit, _, ⟨hlimit, rfl⟩, later, rfl, rfl⟩

/-! ## Texts -/

theorem parse_object_iff {text : String} {members : List (StringLiteral × Spelling)}
    (h : Json.tokens text.toList = (Spelling.object members).tokens) (settings : Settings) :
    Json.parse read text = .ok settings ↔ SaidBy members settings := by
  have hread := read_object_eq_ok_iff (Json.unbroken_of_tokens_eq h) [] settings []
  rw [List.append_nil, ← h] at hread
  rw [Json.parse_eq_ok_iff, hread, and_iff_left rfl]

theorem parse_list_iff {text : String} {items : List Spelling}
    (h : Json.tokens text.toList = (Spelling.list items).tokens) (settings : Settings) :
    Json.parse read text = .ok settings ↔ Listed items settings := by
  have hread := read_list_eq_ok_iff items [] settings []
  rw [List.append_nil, ← h] at hread
  rw [Json.parse_eq_ok_iff, hread, and_iff_left rfl]

/-- The members that settings are written as. -/
def members (settings : Settings) : List (StringLiteral × Spelling) := [
  (Json.literalOf "tier".toList, .string (Json.literalOf settings.tier.name.toList)),
  (Json.literalOf "default_limit".toList, match settings.defaultLimit with
    | none => .null
    | some limit => .number (Json.integerLiteral limit.toNat))]

theorem tokens_render_toJson (settings : Settings) :
    Json.tokens settings.toJson.render.toList = (Spelling.object settings.members).tokens := by
  obtain ⟨tier, limit⟩ := settings
  have htier : Tier.json.toJson tier = .string tier.name := by cases tier <;> rfl
  have hopen (cs : List Char) : Json.tokens ('\x7b' :: cs) = .openObject :: Json.tokens cs := rfl
  have hcomma (cs : List Char) : Json.tokens (',' :: cs) = .comma :: Json.tokens cs := rfl
  have hcolon (cs : List Char) : Json.tokens (':' :: cs) = .colon :: Json.tokens cs := rfl
  have hnull : Json.tokens ['n', 'u', 'l', 'l', '\x7d'] = [.null, .closeObject] := rfl
  have hclose : Json.tokens ['\x7d'] = [.closeObject] := rfl
  cases limit with
  | none =>
    simp [toJson, htier, Json.Value.render, Json.Value.write, Json.Value.writeMembers,
      Json.Value.writeMember, members, Spelling.tokens, Spelling.memberTokens,
      Spelling.tokensAfterMember, hopen, hcomma, hcolon, hnull, Json.tokens_encode]
  | some limit =>
    have hnumber := Json.tokens_decimal limit.toNat 
      (show Json.Follows ['\x7d'] by simp [Json.Follows])
    simp [toJson, htier, Json.Value.render, Json.Value.write, Json.Value.writeMembers,
      Json.Value.writeMember, members, Spelling.tokens, Spelling.memberTokens,
      Spelling.tokensAfterMember, hopen, hcomma, hcolon, hclose, hnumber, Json.tokens_encode,
      Json.Number.text]

theorem saidBy_members (settings : Settings) : SaidBy settings.members settings := by
  obtain ⟨tier, limit⟩ := settings
  rw [SaidBy, members, saidAfter_cons]
  refine ⟨"tier", Json.text_literalOf _, ⟨some tier, none⟩,
    (if_pos rfl).mpr ⟨rfl, tier, Json.text_literalOf _, rfl⟩, ?_⟩
  rw [saidAfter_cons]
  refine ⟨"default_limit", Json.text_literalOf _, ⟨some tier, some limit⟩,
    (if_neg (by decide)).mpr ((if_pos rfl).mpr ⟨rfl, limit, ?_, rfl⟩), (saidAfter_nil _ _).mpr rfl⟩
  cases limit with
  | none => rfl
  | some limit =>
    have hlimit : (limit.toNat : Int) < (Nat.pow 2 64 : Nat) := Int.ofNat_lt.mpr limit.toNat_lt
    exact ⟨limit, rfl, Json.number_integerLiteral (by omega) hlimit⟩

/-- Members that repeat one of the two names say nothing. -/
theorem not_saidBy_of_repeated {name : String} (hname : name = "tier" ∨ name = "default_limit")
    {first second : StringLiteral} (hfirst : first.text = .ok name)
    (hsecond : second.text = .ok name)
    (value value' : Spelling) (before between after : List (StringLiteral × Spelling))
    (settings : Settings) :
    ¬ SaidBy (before ++ (first, value) :: between ++ (second, value') :: after) settings := by
  intro hsaid
  have hvalues : 2 ≤ (valuesUnder name
      (before ++ (first, value) :: between ++ (second, value') :: after)).length := by
    simp [valuesUnder, hfirst, hsecond, Except.toOption]
    omega
  rcases hname with rfl | rfl
  · exact absurd hsaid.tier.length_le_one (Nat.not_le.mpr hvalues)
  · exact absurd hsaid.limit.length_le_one (Nat.not_le.mpr hvalues)

/-- **Settings in JSON.** Settings are read back from the text they are written as, and are written
as that text again. In the text of an object the members say what is read: each part at most once
and in any place, with the default where a part is not said, and nothing of the other members
matters. So nothing is read of an object that repeats one of the two names. In the text of a list,
the tier and the limit are its two items. -/
theorem read_json :
    (∀ settings : Settings, Json.parse read settings.toJson.render = .ok settings ∧
      (·.toJson.render) <$> Json.parse read settings.toJson.render = .ok settings.toJson.render) ∧
    (∀ (text : String) (members : List (StringLiteral × Spelling)),
      Json.tokens text.toList = (Spelling.object members).tokens →
        ∀ settings, Json.parse read text = .ok settings ↔ SaidBy members settings) ∧
    (∀ (text name : String) (first second : StringLiteral) (value value' : Spelling)
      (before between after : List (StringLiteral × Spelling)),
      name = "tier" ∨ name = "default_limit" → first.text = .ok name → second.text = .ok name →
        Json.tokens text.toList = (Spelling.object
          (before ++ (first, value) :: between ++ (second, value') :: after)).tokens →
        ∃ failure, Json.parse read text = .error failure) ∧
    ∀ (text : String) (items : List Spelling),
      Json.tokens text.toList = (Spelling.list items).tokens →
        ∀ settings, Json.parse read text = .ok settings ↔ Listed items settings := by
  refine ⟨fun settings => ?_, fun text members h => parse_object_iff h, ?_,
    fun text items h => parse_list_iff h⟩
  · have hread := (parse_object_iff (tokens_render_toJson settings) settings).mpr
      (saidBy_members settings)
    rw [hread]
    exact ⟨rfl, rfl⟩
  · intro text name first second value value' before between after hname hfirst hsecond htext
    cases hread : Json.parse read text with
    | error failure => exact ⟨failure, rfl⟩
    | ok settings =>
      exact absurd ((parse_object_iff htext settings).mp hread)
        (not_saidBy_of_repeated hname hfirst hsecond value value' before between after settings)

theorem read_json_pro :
    Json.parse read "\x7b\"seen\":[1e9,\x7b\x7d],\"default_limit\":7,\"tier\":\"pro\"\x7d" =
        .ok ⟨.pro, some 7⟩ ∧
      (∃ failure, Json.parse read "\x7b\"tier\":\"pro\",\"seen\":null,\"tier\":\"pro\"\x7d" =
        .error failure) ∧
      Json.parse read "[\"pro\",7]" = .ok ⟨.pro, some 7⟩ := by
  have htier : (Json.literalOf "tier".toList).text = .ok "tier" := Json.text_literalOf _
  refine ⟨(read_json.2.1 _ [
      (Json.literalOf "seen".toList, .list [.number ⟨false, ['1'], none, some (false, ['9'])⟩,
        .object []]),
      (Json.literalOf "default_limit".toList, .number (Json.integerLiteral 7)),
      (Json.literalOf "tier".toList, .string (Json.literalOf "pro".toList))] rfl _).mpr ?_,
    read_json.2.2.1 _ "tier" _ _ (.string (Json.literalOf "pro".toList))
      (.string (Json.literalOf "pro".toList)) [] [(Json.literalOf "seen".toList, .null)] []
      (.inl rfl) htier htier rfl,
    (read_json.2.2.2 _ [.string (Json.literalOf "pro".toList), .number (Json.integerLiteral 7)]
      rfl _).mpr ⟨_, _, rfl, Json.text_literalOf _, 7, rfl, rfl⟩⟩
  refine ⟨?_, rfl, 7, rfl, rfl⟩
  simp only [List.forall_mem_cons, Json.text_literalOf, Except.ok.injEq, exists_eq', true_and]
  exact List.forall_mem_nil _

end Settings

end Apicalypse

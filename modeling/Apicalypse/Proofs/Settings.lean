import Apicalypse.Proofs.Json.Enumeration
import Apicalypse.Proofs.Text.Decimal
import Apicalypse.Proofs.Text.Lowercase
import Apicalypse.Settings

/-!
# Settings from named texts

Which texts are settings, what they set, and which fault is reported of the others.

* `Tier.parse?_eq_some_iff`, `Tier.ofName?_json_eq_some_iff`: a tier is known by its name, from a
  text in any case.
* `NamesTier`, `GivesLimit`: what a text, or none, sets.
* `Problem.Arises`: the problem with two texts. A faulty tier comes before a faulty limit.
* `lookup_eq_ok_iff`, `lookup_eq_error_iff`: what looking up gives.
* `lookup_texts`: both in full, with the words of the problems.
-/

namespace Apicalypse

/-! ## Tiers -/

namespace Tier

theorem isNameLetter_of_mem_name (tier : Tier) : ∀ d ∈ tier.name.toList, Text.IsNameLetter d := by
  cases tier <;> simp [Tier.name, Text.IsNameLetter]

/-- A tier is known by its name in any case. -/
theorem parse?_eq_some_iff (text : String) (tier : Tier) :
    parse? text = some tier ↔ Text.IsCaseVariant text tier.name := by
  rw [← Text.lowercase_eq_iff tier.isNameLetter_of_mem_name, parse?]
  split <;> cases tier <;> simp_all [Tier.name]

/-- In JSON the tiers go by the same names. -/
theorem names_json (tier : Tier) : json.names tier = [tier.name] := by
  cases tier <;> rfl

theorem ofName?_json_eq_some_iff (name : String) (tier : Tier) :
    json.ofName? name = some tier ↔ name = tier.name := by
  have hall (tier : Tier) : tier ∈ json.values := by cases tier <;> decide
  rw [Json.Enumeration.ofName?_eq_some_iff hall (by decide), names_json, List.mem_singleton]

end Tier

namespace Settings

/-! ## What the texts set -/

/-- The text names the tier. Where there is none, the tier is free. -/
def NamesTier (tier : Tier) : Option String → Prop
  | none => tier = .free
  | some text => Text.IsCaseVariant text tier.name

/-- The text writes the limit. Where there is none, there is no limit either. -/
def GivesLimit (limit : Option UInt64) : Option String → Prop
  | none => limit = none
  | some text => ∃ n, limit = some n ∧ Text.WritesWord text n

theorem lookupTier_eq_ok_iff (texts : String → Option String) (tier : Tier) :
    lookupTier texts = .ok tier ↔ NamesTier tier (texts tierKey) := by
  unfold lookupTier
  cases texts tierKey with
  | none => simp [NamesTier, default, eq_comm]
  | some text =>
    rw [NamesTier, ← Tier.parse?_eq_some_iff]
    cases h : Tier.parse? text <;> simp [h]

theorem lookupLimit_eq_ok_iff (texts : String → Option String) (limit : Option UInt64) :
    lookupLimit texts = .ok limit ↔ GivesLimit limit (texts limitKey) := by
  unfold lookupLimit
  cases texts limitKey with
  | none => simp [GivesLimit, eq_comm]
  | some text =>
    simp only [GivesLimit, ← Text.readWord_eq_ok_iff]
    cases Text.readWord text <;> simp [eq_comm]

/-- The numeral of a number gives it as the limit. -/
theorem givesLimit_decimal (n : UInt64) (limit : Option UInt64) :
    GivesLimit limit (some (Text.decimal n.toNat)) ↔ limit = some n := by
  have hread := Text.readWord_of_writesWord (Text.writesWord_decimal n)
  simp [GivesLimit, ← Text.readWord_eq_ok_iff, hread]

/-! ## What is wrong with them -/

/-- The problem with the texts of the tier and of the limit. The limit is looked at only when
nothing is wrong with the tier. -/
def Problem.Arises (tier limit : Option String) : Problem → Prop
  | .unknownTier text => tier = some text ∧ ∀ t : Tier, ¬ Text.IsCaseVariant text t.name
  | .badLimit reason =>
    (∃ t, NamesTier t tier) ∧ ∃ text, limit = some text ∧ Text.Faulty text reason

theorem lookupTier_eq_error_iff (texts : String → Option String) (problem : Problem) :
    lookupTier texts = .error problem ↔ ∃ text, texts tierKey = some text ∧
      (∀ tier : Tier, ¬ Text.IsCaseVariant text tier.name) ∧ problem = .unknownTier text := by
  unfold lookupTier
  cases texts tierKey with
  | none => simp
  | some text =>
    simp only [← Tier.parse?_eq_some_iff, Option.some.injEq, exists_eq_left']
    cases Tier.parse? text <;> simp [eq_comm]

theorem lookupLimit_eq_error_iff (texts : String → Option String) (problem : Problem) :
    lookupLimit texts = .error problem ↔ ∃ text, texts limitKey = some text ∧
      ∃ reason, Text.Faulty text reason ∧ problem = .badLimit reason := by
  unfold lookupLimit
  cases texts limitKey with
  | none => simp
  | some text =>
    simp only [← Text.readWord_eq_error_iff, Option.some.injEq, exists_eq_left']
    cases Text.readWord text <;> simp [eq_comm]

/-! ## Looking up -/

theorem lookup_eq_ok_iff (texts : String → Option String) (settings : Settings) :
    lookup texts = .ok settings ↔
      NamesTier settings.tier (texts tierKey) ∧
        GivesLimit settings.defaultLimit (texts limitKey) := by
  obtain ⟨tier, limit⟩ := settings
  rw [← lookupTier_eq_ok_iff, ← lookupLimit_eq_ok_iff, lookup]
  cases lookupTier texts with
  | error problem => simp [bind, Except.bind]
  | ok tier => cases lookupLimit texts <;> simp [bind, Except.bind, pure, Except.pure]

theorem lookup_eq_error_iff (texts : String → Option String) (problem : Problem) :
    lookup texts = .error problem ↔ problem.Arises (texts tierKey) (texts limitKey) := by
  have hlookup : lookup texts = .error problem ↔ lookupTier texts = .error problem ∨
      (∃ tier, lookupTier texts = .ok tier) ∧ lookupLimit texts = .error problem := by
    rw [lookup]
    cases lookupTier texts with
    | error earlier => simp [bind, Except.bind]
    | ok tier => cases lookupLimit texts <;> simp [bind, Except.bind, pure, Except.pure]
  rw [hlookup, lookupTier_eq_error_iff, lookupLimit_eq_error_iff]
  simp only [lookupTier_eq_ok_iff]
  cases problem with
  | unknownTier text => simp [Problem.Arises]
  | badLimit reason => simp [Problem.Arises]

/-- **Settings from texts.** Looking up succeeds when the tier is missing or named in any case, and
the limit is missing or written in digits; then these are the settings. Otherwise the tier is at
fault, whatever the limit is, or else the limit, and the problem says so in words. The numeral of
every 64-bit number is read as this number. -/
theorem lookup_texts (texts : String → Option String) :
    (∀ settings : Settings, lookup texts = .ok settings ↔
        NamesTier settings.tier (texts "APICALYPSE_TIER") ∧
          GivesLimit settings.defaultLimit (texts "APICALYPSE_DEFAULT_LIMIT")) ∧
      (∀ problem : Problem, lookup texts = .error problem ↔
        problem.Arises (texts "APICALYPSE_TIER") (texts "APICALYPSE_DEFAULT_LIMIT")) ∧
      (∀ text : String, (Problem.unknownTier text).key = "APICALYPSE_TIER" ∧
        (Problem.unknownTier text).detail = "unknown tier '" ++ text ++ "'") ∧
      (∀ reason : Text.NumeralError, (Problem.badLimit reason).key = "APICALYPSE_DEFAULT_LIMIT" ∧
        (Problem.badLimit reason).detail = match reason with
          | .empty => "cannot parse integer from empty string"
          | .tooLarge => "number too large to fit in target type"
          | .invalidDigit => "invalid digit found in string") ∧
      ∀ (n : UInt64) (limit : Option UInt64),
        GivesLimit limit (some (Text.decimal n.toNat)) ↔ limit = some n := by
  refine ⟨lookup_eq_ok_iff texts, lookup_eq_error_iff texts, fun text => ⟨rfl, rfl⟩,
    fun reason => ⟨rfl, ?_⟩, givesLimit_decimal⟩
  cases reason <;> rfl

example : lookup (fun key => if key = tierKey then some "PaRtNeR" else some "+0025") =
    .ok ⟨.partner, some 25⟩ := by
  rfl

end Settings

end Apicalypse

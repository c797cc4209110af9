import Apicalypse.Text.Lowercase

/-!
# Lower case of ASCII names

Some letters outside of ASCII have a small form inside of it, or one that begins inside of it. None
of them gets into a name that is written in the small ASCII letters other than `k`.

* `IsCaseVariant`: a text that is a name but for the case of its ASCII letters.
* `lowercaseAt_of_ascii`, `capitalRuns_apart`: the small forms of ASCII characters, and where the
  other capital letters and their small forms lie.
* `not_isNameLetter_of_not_ascii`: the other characters, `Σ` in all places, have no part in a name.
* `lowercase_eq_iff`, `lowercase_mem_iff`: the texts whose lower case is a name, or one of several,
  are the case variants of names.
* `IsCaseVariant.ascii`: such a text holds ASCII characters only.
-/

namespace Apicalypse.Text

/-- The text is the name when its capital ASCII letters are made small. -/
def IsCaseVariant (text name : String) : Prop := text.toList.map Char.toLower = name.toList

instance (text name : String) : Decidable (IsCaseVariant text name) :=
  inferInstanceAs (Decidable (_ = _))

/-- A small ASCII letter that is the small form of no character outside of ASCII. -/
def IsNameLetter (c : Char) : Prop := c.isLower = true ∧ c ≠ 'k'

instance (c : Char) : Decidable (IsNameLetter c) := inferInstanceAs (Decidable (_ ∧ _))

/-! ## Characters -/

theorem toNat_of_isLower {c : Char} (h : c.isLower = true) : 97 ≤ c.toNat ∧ c.toNat ≤ 122 := by
  have hval : (decide (c.val ≥ 97) && decide (c.val ≤ 122)) = true := h
  simpa [UInt32.le_iff_toNat_le, ← Char.toNat_val] using hval

/-- Where no character has the number, the null character stands for it. -/
theorem toNat_ofNat_eq_zero_or (n : Nat) : (Char.ofNat n).toNat = 0 ∨ (Char.ofNat n).toNat = n := by
  by_cases hn : n.isValidChar
  · rw [Char.ofNat, dif_pos hn]
    exact .inr rfl
  · rw [Char.ofNat, dif_neg hn]
    exact .inl rfl

theorem toLower_eq_self {c : Char} (h : ¬ (65 ≤ c.toNat ∧ c.toNat ≤ 90)) : c.toLower = c := by
  have hupper : ¬ (c.val ≥ 'A'.val ∧ c.val ≤ 'Z'.val) := fun hval =>
    h ⟨UInt32.le_iff_toNat_le.mp hval.1, UInt32.le_iff_toNat_le.mp hval.2⟩
  exact dif_neg hupper

theorem lowercaseChar_of_ascii {c : Char} (h : c.toNat < 128) : lowercaseChar c = [c.toLower] := by
  have hfar : ∀ run ∈ capitalRuns.tail, 128 ≤ run.first := by decide +kernel
  have hnone : capitalRuns.tail.find? (·.contains c) = none := by
    rw [List.find?_eq_none]
    intro run hrun hcontains
    have := hfar run hrun
    simp only [CapitalRun.contains, Bool.and_eq_true, decide_eq_true_eq] at hcontains
    omega
  have hdot : c ≠ '\u0130' := by rintro rfl; exact absurd h (by decide)
  have hruns : capitalRuns = ⟨65, 90, 1, 32⟩ :: capitalRuns.tail := rfl
  rw [lowercaseChar, if_neg hdot, hruns, List.find?_cons, hnone]
  by_cases hc : 65 ≤ c.toNat ∧ c.toNat ≤ 90
  · have hletters : ∀ n ≤ 25, Char.ofNat (n + 65 + 32) = (Char.ofNat (n + 65)).toLower := by decide
    have hletter := hletters (c.toNat - 65) (by omega)
    rw [Nat.sub_add_cancel hc.1, Char.ofNat_toNat] at hletter
    have hcontains : CapitalRun.contains ⟨65, 90, 1, 32⟩ c = true := by
      simp [CapitalRun.contains, hc, Nat.mod_one]
    rw [hcontains, ← hletter]
    rfl
  · have hcontains : CapitalRun.contains ⟨65, 90, 1, 32⟩ c = false := by
      simp only [CapitalRun.contains, Bool.and_eq_false_iff, decide_eq_false_iff_not]
      omega
    rw [hcontains, toLower_eq_self hc]

theorem lowercaseAt_of_ascii (before : List Char) {c : Char} (h : c.toNat < 128)
    (after : List Char) : lowercaseAt before c after = [c.toLower] := by
  have hsigma : c ≠ '\u03A3' := by rintro rfl; exact absurd h (by decide)
  rw [lowercaseAt, if_neg hsigma, lowercaseChar_of_ascii h]

/-- Besides `A` to `Z` and the Kelvin sign, whose small form is `k`, the capital letters have their
small forms outside of ASCII. -/
theorem capitalRuns_apart : ∀ run ∈ capitalRuns, run.last < 128 ∨
    run.first = run.last ∧ run.first + run.shift = 107 ∨ 128 ≤ run.first + run.shift := by
  decide +kernel

/-- A character outside of ASCII does not become a letter of a name, or not that letter alone. -/
theorem not_isNameLetter_of_not_ascii (before : List Char) {c : Char} (h : 128 ≤ c.toNat)
    (after : List Char) : ∃ d ∈ lowercaseAt before c after, ¬ IsNameLetter d := by
  unfold lowercaseAt lowercaseChar
  split
  · refine ⟨_, List.mem_singleton_self _, ?_⟩
    unfold lowercaseSigma
    split <;> decide
  split
  · exact ⟨'\u0307', by simp, by decide⟩
  · cases hrun : capitalRuns.find? (·.contains c) with
    | none =>
      refine ⟨c, List.mem_singleton_self c, fun hc => ?_⟩
      have := toNat_of_isLower hc.1
      omega
    | some run =>
      refine ⟨_, List.mem_singleton_self _, fun hsmall => ?_⟩
      have hcontains := List.find?_some hrun
      simp only [CapitalRun.contains, Bool.and_eq_true, decide_eq_true_eq] at hcontains
      obtain ⟨⟨hfirst, hlast⟩, -⟩ := hcontains
      rcases capitalRuns_apart run (List.mem_of_find?_eq_some hrun) with
        hascii | ⟨hsingle, hkelvin⟩ | hfar
      · omega
      · have hk : (c.toNat : Int) + run.shift = 107 := by omega
        rw [hk] at hsmall
        exact hsmall.2 rfl
      · have hrange := toNat_of_isLower hsmall.1
        rcases toNat_ofNat_eq_zero_or ((c.toNat : Int) + run.shift).toNat with h0 | hn <;> omega

/-! ## Texts -/

theorem lowercaseFrom_eq_iff (before : List Char) {name : List Char}
    (hname : ∀ d ∈ name, IsNameLetter d) (cs : List Char) :
    lowercaseFrom before cs = name ↔ cs.map Char.toLower = name := by
  induction cs generalizing before name with
  | nil => rfl
  | cons c rest ih =>
    rw [lowercaseFrom, List.map_cons]
    rcases Nat.lt_or_ge c.toNat 128 with hc | hc
    · rw [lowercaseAt_of_ascii before hc, List.singleton_append]
      cases name with
      | nil => simp
      | cons d name =>
        rw [List.forall_mem_cons] at hname
        rw [List.cons.injEq, List.cons.injEq, ih _ hname.2]
    · constructor
      · rintro rfl
        obtain ⟨d, hd, hbad⟩ := not_isNameLetter_of_not_ascii before hc rest
        exact absurd (hname d (List.mem_append_left _ hd)) hbad
      · rintro rfl
        have hlower := toNat_of_isLower (hname _ List.mem_cons_self).1
        rw [toLower_eq_self (by omega)] at hlower
        omega

/-- The texts whose lower case is a name are its case variants: no character outside of ASCII has a
part in one. -/
theorem lowercase_eq_iff {name : String} (hname : ∀ d ∈ name.toList, IsNameLetter d)
    (text : String) : lowercase text = name ↔ IsCaseVariant text name := by
  rw [IsCaseVariant, ← lowercaseFrom_eq_iff [] hname, lowercase, ← String.toList_inj,
    String.toList_ofList]

theorem lowercase_mem_iff {names : List String}
    (hnames : ∀ name ∈ names, ∀ d ∈ name.toList, IsNameLetter d) (text : String) :
    lowercase text ∈ names ↔ ∃ name ∈ names, IsCaseVariant text name := by
  constructor
  · intro h
    exact ⟨_, h, (lowercase_eq_iff (hnames _ h) text).mp rfl⟩
  · rintro ⟨name, hname, hvariant⟩
    rw [(lowercase_eq_iff (hnames name hname) text).mpr hvariant]
    exact hname

theorem isCaseVariant_self {name : String} (hname : ∀ d ∈ name.toList, IsNameLetter d) :
    IsCaseVariant name name := by
  have hsmall : ∀ d ∈ name.toList, d.toLower = d := fun d hd => by
    have := toNat_of_isLower (hname d hd).1
    exact toLower_eq_self (by omega)
  exact (List.map_congr_left hsmall).trans (List.map_id' _)

/-- A case variant of a name holds ASCII characters only. -/
theorem IsCaseVariant.ascii {text name : String} (h : IsCaseVariant text name)
    (hname : ∀ d ∈ name.toList, IsNameLetter d) : ∀ c ∈ text.toList, c.toNat < 128 := by
  intro c hc
  rcases Nat.lt_or_ge c.toNat 128 with hsmall | hlarge
  · exact hsmall
  · have hlower : IsNameLetter c.toLower := hname _ (h ▸ List.mem_map_of_mem hc)
    rw [toLower_eq_self (by omega)] at hlower
    have := toNat_of_isLower hlower.1
    omega

end Apicalypse.Text

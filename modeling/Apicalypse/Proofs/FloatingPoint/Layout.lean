import Apicalypse.FloatingPoint.Layout
import Apicalypse.Proofs.FloatingPoint.Shortest
import Apicalypse.Proofs.Text.Decimal

/-!
# The texts of decimals

When the two layouts write a number alike, and how their texts differ otherwise.

* `pointed`: the digits with a point before the last of them, which all layouts write alike and
  from which the digits can be read back.
* `decimalText_scientific_eq_plain_iff`: when two decimals have the same text.
* `not_suffix_plain_decimalText`, `suffix_scientific_decimalText_iff`: trailing zeros.
* `Magnitude.IsModerate`, `IsWhole`, `IsUntied`, `IsPlain`: what the text of a number depends on.
* `Layout.contrast`: both texts of a number.
-/

namespace Apicalypse.FloatingPoint

namespace Layout

/-! ## Digits and a point -/

/-- The digits with a point after the given place, which is before the last of them. -/
def pointed (digits : List Char) (place : Int) : List Char :=
  if place ≤ 0 then '0' :: '.' :: (List.replicate (-place).toNat '0' ++ digits)
  else digits.take place.toNat ++ '.' :: digits.drop place.toNat

/-- A point before the last digit is written alike by all layouts. -/
theorem toList_positionalText_of_lt (layout : Layout) {digits : List Char} {place : Int}
    (h : place < digits.length) :
    (layout.positionalText digits place).toList = pointed digits place := by
  unfold positionalText pointed
  split
  · simp [zeros]
  · rw [if_neg (not_le.mpr h)]
    simp

theorem toList_positionalText_of_le (layout : Layout) {digits : List Char} {place : Int}
    (hdigits : digits ≠ []) (h : (digits.length : Int) ≤ place) :
    (layout.positionalText digits place).toList =
      digits ++ List.replicate (place.toNat - digits.length) '0' ++ layout.wholeSuffix.toList := by
  have hlength := List.length_pos_iff.mpr hdigits
  unfold positionalText
  rw [if_neg (by omega), if_pos h]
  simp [zeros]

variable {digits : List Char} (hdigits : ∀ c ∈ digits, c.isDigit = true) (place : Int)

include hdigits

theorem mem_pointed {c : Char} (h : c ∈ pointed digits place) : c.isDigit = true ∨ c = '.' := by
  unfold pointed at h
  split at h
  · simp only [List.mem_cons, List.mem_append, List.mem_replicate] at h
    rcases h with rfl | rfl | ⟨-, rfl⟩ | h
    · exact .inl rfl
    · exact .inr rfl
    · exact .inl rfl
    · exact .inl (hdigits c h)
  · rw [List.mem_append, List.mem_cons] at h
    rcases h with h | rfl | h
    · exact .inl (hdigits c (List.mem_of_mem_take h))
    · exact .inr rfl
    · exact .inl (hdigits c (List.mem_of_mem_drop h))

/-- The number is read back from the characters without the point. -/
theorem ofDigitChars_filter_pointed :
    Nat.ofDigitChars 10 ((pointed digits place).filter (· != '.')) 0 =
      Nat.ofDigitChars 10 digits 0 := by
  have hfilter : digits.filter (· != '.') = digits := by
    rw [List.filter_eq_self]
    intro c hc
    rw [bne_iff_ne]
    rintro rfl
    exact absurd (hdigits _ hc) (by decide)
  unfold pointed
  split
  · simp [hfilter, Nat.ofDigitChars_cons, Nat.ofDigitChars_append]
  · rw [List.filter_append, List.filter_cons_of_neg (by decide), ← List.filter_append,
      List.take_append_drop, hfilter]

omit hdigits in
/-- The last digit comes last. -/
theorem getLast?_pointed (hne : digits ≠ []) (h : place < digits.length) :
    (pointed digits place).getLast? = digits.getLast? := by
  obtain ⟨last, hlast⟩ := Option.isSome_iff_exists.mp (List.getLast?_isSome.mpr hne)
  unfold pointed
  split
  · rw [← List.cons_append, ← List.cons_append, List.getLast?_append, hlast, Option.some_or]
  · have hdrop : digits.drop place.toNat ≠ [] := by
      rw [ne_eq, List.drop_eq_nil_iff]
      omega
    obtain ⟨last', hlast'⟩ := Option.isSome_iff_exists.mp (List.getLast?_isSome.mpr hdrop)
    conv_rhs => rw [← List.take_append_drop place.toNat digits]
    rw [List.append_cons, List.getLast?_append, hlast', Option.some_or, List.getLast?_append,
      hlast', Option.some_or]

end Layout

/-! ## Decimals -/

/-- The place of the point, counted from the first digit. -/
def Decimal.place (d : Decimal) : Int := (Text.digits d.digits).length + d.exponent

namespace Layout

section

variable (layout : Layout) {d : Decimal} (hd : d.digits ≠ 0)

include hd

theorem decimalText_eq : layout.decimalText d =
    if layout.positional d.place then layout.positionalText (Text.digits d.digits) d.place
    else exponentText (Text.digits d.digits) d.place := if_neg hd

theorem toList_decimalText_of_neg (hplace : layout.positional d.place = true)
    (hexponent : d.exponent < 0) :
    (layout.decimalText d).toList = pointed (Text.digits d.digits) d.place := by
  rw [layout.decimalText_eq hd, if_pos hplace]
  exact layout.toList_positionalText_of_lt (by rw [Decimal.place]; omega)

theorem toList_decimalText_of_nonneg (hplace : layout.positional d.place = true)
    (hexponent : 0 ≤ d.exponent) : (layout.decimalText d).toList =
      Text.digits d.digits ++ List.replicate d.exponent.toNat '0' ++ layout.wholeSuffix.toList := by
  have hzeros : d.place.toNat - (Text.digits d.digits).length = d.exponent.toNat := by
    rw [Decimal.place]
    omega
  have hdigits : Text.digits d.digits ≠ [] := Nat.toDigits_ne_nil
  rw [layout.decimalText_eq hd, if_pos hplace,
    layout.toList_positionalText_of_le hdigits (by rw [Decimal.place]; omega), hzeros]

theorem decimalText_of_not_positional (hplace : layout.positional d.place = false) :
    layout.decimalText d = exponentText (Text.digits d.digits) d.place := by
  rw [layout.decimalText_eq hd, hplace, if_neg Bool.false_ne_true]

end

/-! ## The two layouts -/

theorem e_mem_exponentText (digits : List Char) (place : Int) :
    'e' ∈ (exponentText digits place).toList := by
  simp [exponentText]

theorem positional_scientific_iff (place : Int) :
    scientific.positional place = true ↔ -4 ≤ place ∧ place ≤ 16 := by
  simp [scientific]

/-- The plain layout writes nothing but digits and a point, and no point after a whole number. -/
theorem mem_plain_decimalText (d : Decimal) {c : Char} (h : c ∈ (plain.decimalText d).toList) :
    c.isDigit = true ∨ c = '.' ∧ d.exponent < 0 := by
  by_cases hd : d.digits = 0
  · simp [decimalText, hd, plain] at h
    simp [h]
  · rcases lt_or_ge d.exponent 0 with hneg | hnonneg
    · rw [plain.toList_decimalText_of_neg hd rfl hneg] at h
      exact (mem_pointed (Text.isDigit_of_mem_digits _) _ h).imp_right (⟨·, hneg⟩)
    · rw [plain.toList_decimalText_of_nonneg hd rfl hnonneg] at h
      simp [plain] at h
      rcases h with h | ⟨-, rfl⟩
      · exact .inl (Text.isDigit_of_mem_digits _ _ h)
      · exact .inl rfl

/-- Two decimals with digits and of one exponent have the same text in both layouts when they are
the same, have a point, and are neither very large nor very small. -/
theorem decimalText_scientific_eq_plain_iff {d d' : Decimal} (hd : d.digits ≠ 0)
    (hd' : d'.digits ≠ 0) (hexponent : d.exponent = d'.exponent) :
    scientific.decimalText d = plain.decimalText d' ↔
      d.exponent < 0 ∧ (-4 ≤ d.place ∧ d.place ≤ 16) ∧ d = d' := by
  rw [← positional_scientific_iff]
  cases hplace : scientific.positional d.place with
  | false =>
    refine iff_of_false (fun htext => ?_) (by simp)
    have he := e_mem_exponentText (Text.digits d.digits) d.place
    rw [← scientific.decimalText_of_not_positional hd hplace, htext] at he
    rcases mem_plain_decimalText d' he with h | ⟨h, -⟩ <;> exact absurd h (by decide)
  | true =>
    rcases lt_or_ge d.exponent 0 with hneg | hnonneg
    · have hpoint := scientific.toList_decimalText_of_neg hd hplace hneg
      have hpoint' := plain.toList_decimalText_of_neg hd' rfl (hexponent ▸ hneg)
      refine ⟨fun htext => ⟨hneg, rfl, ?_⟩, fun ⟨_, _, heq⟩ => ?_⟩
      · have hdigits := congrArg (fun cs => Nat.ofDigitChars 10 (cs.filter (· != '.')) 0)
          (congrArg String.toList htext)
        simp only [hpoint, hpoint', ofDigitChars_filter_pointed (Text.isDigit_of_mem_digits _),
          Text.ofDigitChars_digits] at hdigits
        obtain ⟨digits, exponent⟩ := d
        obtain ⟨digits', exponent'⟩ := d'
        rw [Decimal.mk.injEq]
        exact ⟨hdigits, hexponent⟩
      · rw [← String.toList_inj, hpoint, hpoint', heq]
    · refine iff_of_false (fun htext => ?_) (by omega)
      have hpoint : '.' ∈ (scientific.decimalText d).toList := by
        rw [scientific.toList_decimalText_of_nonneg hd hplace hnonneg]
        simp [scientific]
      rw [htext] at hpoint
      obtain h | ⟨-, h⟩ := mem_plain_decimalText d' hpoint
      · exact absurd h (by decide)
      · omega

/-! ## Trailing zeros -/

/-- A text without a point has no trailing `.0`. -/
theorem not_suffix_of_not_mem {cs : List Char} (h : '.' ∉ cs) : ¬ ['.', '0'] <:+ cs :=
  fun hsuffix => h (hsuffix.subset (by simp))

/-- After a point, digits that end in no zero are no trailing `.0`. -/
theorem not_suffix_pointed {n : Nat} (hn : ¬ 10 ∣ n) {place : Int}
    (h : place < (Text.digits n).length) : ¬ ['.', '0'] <:+ pointed (Text.digits n) place := by
  intro hsuffix
  have hne : Text.digits n ≠ [] := Nat.toDigits_ne_nil
  have hlast := getLast?_pointed place hne h
  obtain ⟨front, hfront⟩ := hsuffix
  rw [← hfront, Text.getLast?_digits, List.getLast?_append] at hlast
  have hzero : (n % 10).digitChar = '0' := (Option.some.inj hlast).symm
  rw [Nat.digitChar_eq_zero] at hzero
  exact hn (Nat.dvd_of_mod_eq_zero hzero)

theorem not_suffix_exponentText (digits : List Char) (place : Int) :
    ¬ ['.', '0'] <:+ (exponentText digits place).toList := by
  have hpower : '.' ∉ 'e' :: ((if place - 1 < 0 then "" else "+") ++
      Text.decimal (place - 1)).toList := by
    have := Text.not_mem_decimal (c := '.') (by decide) (by decide) (place - 1)
    split <;> simp [this]
  obtain ⟨mantissa, hmantissa⟩ : ∃ mantissa, (exponentText digits place).toList =
      mantissa ++ 'e' :: ((if place - 1 < 0 then "" else "+") ++
        Text.decimal (place - 1)).toList := by
    simp only [exponentText, String.toList_append, List.append_assoc]
    exact ⟨_, rfl⟩
  rintro ⟨front, hfront⟩
  rw [hmantissa, List.append_eq_append_iff] at hfront
  rcases hfront with ⟨more, -, hsuffix⟩ | ⟨more, -, hsuffix⟩
  · have he : 'e' ∈ ['.', '0'] := hsuffix ▸ by simp
    simp at he
  · exact hpower (hsuffix ▸ by simp)

/-- The plain layout writes no trailing `.0`, when the digits end in no zero. -/
theorem not_suffix_plain_decimalText {d : Decimal} (hd : ¬ 10 ∣ d.digits) :
    ¬ ['.', '0'] <:+ (plain.decimalText d).toList := by
  have hne : d.digits ≠ 0 := fun h => hd (h ▸ Nat.dvd_zero 10)
  rcases lt_or_ge d.exponent 0 with hneg | hnonneg
  · rw [plain.toList_decimalText_of_neg hne rfl hneg]
    exact not_suffix_pointed hd (by rw [Decimal.place]; omega)
  · refine not_suffix_of_not_mem fun hpoint => ?_
    rcases mem_plain_decimalText d hpoint with h | ⟨-, h⟩
    · exact absurd h (by decide)
    · omega

/-- The scientific layout writes a trailing `.0` after whole numbers without an exponent. -/
theorem suffix_scientific_decimalText_iff {d : Decimal} (hd : ¬ 10 ∣ d.digits) :
    ['.', '0'] <:+ (scientific.decimalText d).toList ↔
      (-4 ≤ d.place ∧ d.place ≤ 16) ∧ 0 ≤ d.exponent := by
  have hne : d.digits ≠ 0 := fun h => hd (h ▸ Nat.dvd_zero 10)
  rw [← positional_scientific_iff]
  cases hplace : scientific.positional d.place with
  | false =>
    rw [scientific.decimalText_of_not_positional hne hplace]
    exact iff_of_false (not_suffix_exponentText _ _) (by simp)
  | true =>
    rcases lt_or_ge d.exponent 0 with hneg | hnonneg
    · rw [scientific.toList_decimalText_of_neg hne hplace hneg]
      exact iff_of_false (not_suffix_pointed hd (by rw [Decimal.place]; omega)) (by omega)
    · rw [scientific.toList_decimalText_of_nonneg hne hplace hnonneg]
      exact iff_of_true (List.suffix_append _ _) ⟨rfl, hnonneg⟩

/-- The scientific layout writes an `e` with an exponent only. -/
theorem e_mem_scientific_decimalText_iff {d : Decimal} (hd : d.digits ≠ 0) :
    'e' ∈ (scientific.decimalText d).toList ↔ ¬ (-4 ≤ d.place ∧ d.place ≤ 16) := by
  rw [← positional_scientific_iff]
  cases hplace : scientific.positional d.place with
  | false =>
    rw [scientific.decimalText_of_not_positional hd hplace]
    exact iff_of_true (e_mem_exponentText _ _) Bool.false_ne_true
  | true =>
    refine iff_of_false (fun he => ?_) (not_not_intro rfl)
    rcases lt_or_ge d.exponent 0 with hneg | hnonneg
    · rw [scientific.toList_decimalText_of_neg hd hplace hneg] at he
      rcases mem_pointed (Text.isDigit_of_mem_digits _) _ he with h | h <;>
        exact absurd h (by decide)
    · rw [scientific.toList_decimalText_of_nonneg hd hplace hnonneg] at he
      simp [scientific] at he
      exact absurd (Text.isDigit_of_mem_digits _ _ he) (by decide)

end Layout

/-! ## Numbers -/

namespace Magnitude

/-- The shortest decimal has its point neither far before its first digit nor far after it. -/
def IsModerate (fmt : Format) (m : Magnitude) : Prop :=
  -4 ≤ (m.shortest fmt .even).place ∧ (m.shortest fmt .even).place ≤ 16

/-- The shortest decimal is a whole number. -/
def IsWhole (fmt : Format) (m : Magnitude) : Prop := 0 ≤ (m.shortest fmt .even).exponent

/-- The shortest decimal does not depend on ties. -/
def IsUntied (fmt : Format) (m : Magnitude) : Prop := m.shortest fmt .even = m.shortest fmt .up

/-- The shortest decimal is written alike by both layouts: it is no whole number, is neither very
large nor very small, and does not depend on ties. -/
def IsPlain (fmt : Format) (m : Magnitude) : Prop :=
  ¬ m.IsWhole fmt ∧ m.IsModerate fmt ∧ m.IsUntied fmt

theorem shortest_zero {fmt : Format} {m : Magnitude} (h : m.significand = 0) (tie : Tie) :
    m.shortest fmt tie = ⟨0, 0⟩ := if_pos h

end Magnitude

namespace Layout

/-! ### Signs -/

theorem text_finite (layout : Layout) (fmt : Format) (negative : Bool) (m : Magnitude) :
    (layout.text fmt (.finite negative m)).toList = (if negative then ['-'] else []) ++
      (layout.decimalText (m.shortest fmt layout.tie)).toList := by
  cases negative <;> simp [text]

theorem suffix_signed_iff (negative : Bool) (cs : List Char) :
    ['.', '0'] <:+ (if negative then ['-'] else []) ++ cs ↔ ['.', '0'] <:+ cs := by
  cases negative <;> simp [List.suffix_cons_iff]

/-! ### The two texts of a number -/

variable (fmt : Format) (negative : Bool) (m : Magnitude)

theorem text_scientific_eq_plain_iff :
    scientific.text fmt (.finite negative m) = plain.text fmt (.finite negative m) ↔
      m.IsPlain fmt := by
  rw [← String.toList_inj, text_finite, text_finite, List.append_cancel_left_eq, String.toList_inj,
    Magnitude.IsPlain, Magnitude.IsWhole, not_le]
  by_cases hm : m.significand = 0
  · rw [m.shortest_zero hm, m.shortest_zero hm]
    exact iff_of_false (by decide) fun h => absurd h.1 (by rw [m.shortest_zero hm]; decide)
  · have hdigits (tie : Tie) := m.shortest_digits_ne_zero fmt hm tie
    exact decimalText_scientific_eq_plain_iff (hdigits _) (hdigits _)
      (m.shortest_exponent_eq fmt _ _)

theorem e_mem_text_scientific_iff :
    'e' ∈ (scientific.text fmt (.finite negative m)).toList ↔ ¬ m.IsModerate fmt := by
  have hsign : 'e' ∉ if negative then ['-'] else [] := by cases negative <;> simp
  rw [text_finite, List.mem_append, or_iff_right hsign, Magnitude.IsModerate]
  by_cases hm : m.significand = 0
  · rw [m.shortest_zero hm, m.shortest_zero hm]
    decide
  · exact e_mem_scientific_decimalText_iff (m.shortest_digits_ne_zero fmt hm _)

theorem suffix_text_scientific_iff :
    ['.', '0'] <:+ (scientific.text fmt (.finite negative m)).toList ↔
      m.IsModerate fmt ∧ m.IsWhole fmt := by
  rw [text_finite, suffix_signed_iff, Magnitude.IsModerate, Magnitude.IsWhole]
  by_cases hm : m.significand = 0
  · rw [m.shortest_zero hm, m.shortest_zero hm]
    decide
  · exact suffix_scientific_decimalText_iff (m.not_dvd_shortest_digits fmt hm _)

theorem mem_text_plain {c : Char} (h : c ∈ (plain.text fmt (.finite negative m)).toList) :
    c.isDigit = true ∨ c = '.' ∨ c = '-' := by
  rw [text_finite, List.mem_append] at h
  rcases h with h | h
  · cases negative <;> simp_all
  · exact (mem_plain_decimalText _ h).imp_right fun h => .inl h.1

theorem not_suffix_text_plain : ¬ ['.', '0'] <:+ (plain.text fmt (.finite negative m)).toList := by
  rw [text_finite, suffix_signed_iff]
  by_cases hm : m.significand = 0
  · rw [m.shortest_zero hm]
    decide
  · exact not_suffix_plain_decimalText (m.not_dvd_shortest_digits fmt hm _)

end Layout

/-- What two texts of a number have in common, the one in the scientific and the other in the plain
layout. -/
structure Magnitude.Contrast (fmt : Format) (m : Magnitude) (scientific plain : String) : Prop where
  eq_iff : scientific = plain ↔ m.IsPlain fmt
  exponent_iff : 'e' ∈ scientific.toList ↔ ¬ m.IsModerate fmt
  suffix_iff : ['.', '0'] <:+ scientific.toList ↔ m.IsModerate fmt ∧ m.IsWhole fmt
  plain_positional : ∀ c ∈ plain.toList, c.isDigit = true ∨ c = '.' ∨ c = '-'
  plain_not_suffix : ¬ ['.', '0'] <:+ plain.toList

/-- **The two layouts.** They agree on the plain numbers only. On the others the scientific one
writes an exponent or a trailing `.0`, which the plain one never does, or they part at a tie. -/
theorem Layout.contrast (fmt : Format) (negative : Bool) (m : Magnitude) :
    m.Contrast fmt (scientific.text fmt (.finite negative m))
      (plain.text fmt (.finite negative m)) where
  eq_iff := text_scientific_eq_plain_iff fmt negative m
  exponent_iff := e_mem_text_scientific_iff fmt negative m
  suffix_iff := suffix_text_scientific_iff fmt negative m
  plain_positional _ := mem_text_plain fmt negative m
  plain_not_suffix := not_suffix_text_plain fmt negative m

/-- The number `1125899906842624.25` is moderate and no whole one, but tied. -/
example : Layout.scientific.text .double (.finite false ⟨4503599627370497, -2⟩) =
      "1125899906842624.2" ∧
    Layout.plain.text .double (.finite false ⟨4503599627370497, -2⟩) = "1125899906842624.3" := by
  decide

end Apicalypse.FloatingPoint

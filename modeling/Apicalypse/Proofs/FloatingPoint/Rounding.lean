import Apicalypse.FloatingPoint.Format
import Mathlib.Algebra.Order.Field.Power
import Mathlib.Data.Rat.Cast.Order
import Mathlib.Tactic.Positivity
import Mathlib.Tactic.Ring

/-!
# Rounding into a format

Rounding gives numbers of the format: a significand of full precision, or the least exponent.

* `Format.Holds`: the magnitudes of the numbers of a format.
* `inUnits_lt_iff`: the size of a quotient in units of a power of two.
* `exponentOf_spec`: at the exponent of a quotient its integral part has the right length.
* `holds_of_roundRatio?`: what a quotient is rounded to belongs to the format.
* `exists_ofBits_eq`: each such magnitude is encoded by bits.
-/

namespace Apicalypse.FloatingPoint

/-- The magnitude belongs to a number of the format. Only at the least exponent it may have no
leading bit. -/
structure Format.Holds (fmt : Format) (m : Magnitude) : Prop where
  significand_lt : m.significand < fmt.significandBound
  minExponent_le : fmt.minExponent ≤ m.exponent
  le_maxExponent : m.exponent ≤ fmt.maxExponent
  leadingBit_le : fmt.minExponent < m.exponent → fmt.leadingBit ≤ m.significand

/-! ## Quotients -/

theorem roundQuotient_le {num den bound : Nat} (h : num < den * bound) :
    roundQuotient num den ≤ bound := by
  have hq : num / den < bound := Nat.div_lt_of_lt_mul h
  unfold roundQuotient
  simp only
  split <;> (try split) <;> (try split) <;> omega

theorem le_roundQuotient {num den bound : Nat} (hden : 0 < den) (h : den * bound ≤ num) :
    bound ≤ roundQuotient num den := by
  have hq : bound ≤ num / den := (Nat.le_div_iff_mul_le hden).mpr (Nat.mul_comm den bound ▸ h)
  unfold roundQuotient
  simp only
  split <;> (try split) <;> (try split) <;> omega

theorem two_zpow_pos (k : Int) : (0 : ℚ) < 2 ^ k := zpow_pos (by norm_num) k

theorem two_zpow_mono {j k : Int} (h : j ≤ k) : (2 : ℚ) ^ j ≤ 2 ^ k :=
  zpow_le_zpow_right₀ (by norm_num) h

/-- In units of a power of two a quotient is that much smaller. -/
theorem inUnits_lt_iff (num den : Nat) (exponent : Int) (k : Nat) :
    (inUnits num den exponent).1 < (inUnits num den exponent).2 * Nat.pow 2 k ↔
      (num : ℚ) < den * 2 ^ (exponent + k) := by
  have hsplit : (2 : ℚ) ^ exponent.toNat = 2 ^ exponent * 2 ^ (-exponent).toNat := by
    rw [← zpow_natCast, ← zpow_natCast, ← zpow_add₀ (by norm_num)]
    congr 1
    omega
  have hpos : (0 : ℚ) < 2 ^ (-exponent).toNat := by positivity
  have hright : (den : ℚ) * (2 ^ exponent * 2 ^ (-exponent).toNat) * 2 ^ k =
      den * (2 ^ exponent * 2 ^ k) * 2 ^ (-exponent).toNat := by ring
  rw [← Nat.cast_lt (α := ℚ), inUnits]
  push_cast [Nat.pow_eq]
  rw [hsplit, hright, zpow_add₀ (by norm_num), zpow_natCast, mul_lt_mul_iff_left₀ hpos]

/-! ## Exponents -/

theorem lt_mul_two_zpow {num den : Nat} (hden : 0 < den) {k : Int}
    (hk : (num.log2 : Int) - den.log2 + 1 ≤ k) : (num : ℚ) < den * 2 ^ k := by
  have hnum : (num : ℚ) < 2 ^ (num.log2 + 1) := by exact_mod_cast Nat.lt_log2_self
  have hden : (2 : ℚ) ^ den.log2 ≤ den := by exact_mod_cast Nat.log2_self_le hden.ne'
  calc (num : ℚ) < 2 ^ ((num.log2 + 1 : Nat) : Int) := by rwa [zpow_natCast]
    _ ≤ 2 ^ ((den.log2 : Int) + k) := two_zpow_mono (by omega)
    _ = 2 ^ den.log2 * 2 ^ k := by rw [zpow_add₀ (by norm_num), zpow_natCast]
    _ ≤ den * 2 ^ k := mul_le_mul_of_nonneg_right hden (two_zpow_pos k).le

theorem mul_two_zpow_le {num den : Nat} (hnum : 0 < num) {k : Int}
    (hk : k + 1 ≤ (num.log2 : Int) - den.log2) : (den : ℚ) * 2 ^ k ≤ num := by
  have hnum : (2 : ℚ) ^ num.log2 ≤ num := by exact_mod_cast Nat.log2_self_le hnum.ne'
  have hden : (den : ℚ) ≤ 2 ^ (den.log2 + 1) := by exact_mod_cast Nat.lt_log2_self.le
  calc (den : ℚ) * 2 ^ k ≤ 2 ^ (den.log2 + 1) * 2 ^ k :=
        mul_le_mul_of_nonneg_right hden (two_zpow_pos k).le
    _ = 2 ^ (((den.log2 + 1 : Nat) : Int) + k) := by rw [zpow_add₀ (by norm_num), zpow_natCast]
    _ ≤ 2 ^ (num.log2 : Int) := two_zpow_mono (by omega)
    _ ≤ num := by rwa [zpow_natCast]

/-- At the exponent of a quotient its integral part has at most as many bits as a significand, and
exactly as many above the least exponent. -/
theorem Format.exponentOf_spec (fmt : Format) {num den : Nat} (hnum : 0 < num) (hden : 0 < den) :
    fmt.minExponent ≤ fmt.exponentOf num den ∧
      (num : ℚ) < den * 2 ^ (fmt.exponentOf num den + fmt.precision) ∧
      (fmt.minExponent < fmt.exponentOf num den →
        (den : ℚ) * 2 ^ (fmt.exponentOf num den + fmt.precision - 1) ≤ num) := by
  unfold exponentOf significandBound
  simp only [inUnits_lt_iff]
  generalize hlow : max ((num.log2 : Int) - den.log2 - fmt.precision) fmt.minExponent = low
  split
  · next hlt =>
    refine ⟨by omega, hlt, fun hmin => mul_two_zpow_le hnum (by omega)⟩
  · next hle =>
    refine ⟨by omega, lt_mul_two_zpow hden (by omega), fun _ => ?_⟩
    rw [show low + 1 + (fmt.precision : Int) - 1 = low + fmt.precision by omega]
    exact not_lt.mp hle

/-! ## Rounding -/

/-- What a quotient is rounded to belongs to the format. -/
theorem Format.holds_of_roundRatio? {fmt : Format} (hprecision : 0 < fmt.precision)
    (hrange : fmt.minExponent ≤ fmt.maxExponent) {num den : Nat}
    (hden : 0 < den) {m : Magnitude} (h : fmt.roundRatio? num den = some m) : fmt.Holds m := by
  unfold roundRatio? at h
  split at h
  · obtain rfl := Option.some.inj h
    exact ⟨Nat.two_pow_pos _, le_refl _, hrange, fun h => absurd h (lt_irrefl _)⟩
  · next hnum =>
    obtain ⟨hmin, hlt, hle⟩ := fmt.exponentOf_spec (Nat.pos_of_ne_zero hnum) hden
    have hunit : 0 < (inUnits num den (fmt.exponentOf num den)).2 :=
      Nat.mul_pos hden (Nat.two_pow_pos _)
    have hbound := roundQuotient_le ((inUnits_lt_iff num den _ _).mpr hlt)
    have hleading (hnormal : fmt.minExponent < fmt.exponentOf num den) :
        fmt.leadingBit ≤ roundQuotient (inUnits num den (fmt.exponentOf num den)).1
          (inUnits num den (fmt.exponentOf num den)).2 := by
      refine le_roundQuotient hunit (not_lt.mp ?_)
      rw [leadingBit, inUnits_lt_iff, Nat.cast_sub hprecision, not_lt]
      simpa [add_sub_assoc] using hle hnormal
    have hdouble : fmt.leadingBit < fmt.significandBound :=
      Nat.pow_lt_pow_right (by decide) (Nat.sub_lt hprecision Nat.one_pos)
    simp only at h
    split at h
    · rw [Option.ite_none_right_eq_some] at h
      obtain ⟨hmax, hm⟩ := h
      obtain rfl := Option.some.inj hm
      exact ⟨hdouble, by simp only; omega, hmax, fun _ => le_refl _⟩
    · next hne =>
      rw [Option.ite_none_right_eq_some] at h
      obtain ⟨hmax, hm⟩ := h
      obtain rfl := Option.some.inj hm
      exact ⟨lt_of_le_of_ne hbound hne, hmin, hmax, hleading⟩

/-! ## Encoding -/

/-- The number that the three parts of a bit pattern encode. -/
theorem Value.ofBits_parts (fmt : Format) {sign biased fraction : Nat} (hsign : sign < 2)
    (hbiased : biased < 2 * fmt.halfRange - 1) (hfraction : fraction < fmt.leadingBit) :
    ofBits fmt ((sign * (2 * fmt.halfRange) + biased) * fmt.leadingBit + fraction) =
      finite (sign == 1) (if biased = 0 then ⟨fraction, fmt.minExponent⟩
        else ⟨fmt.leadingBit + fraction, fmt.minExponent + (biased - 1)⟩) := by
  have hrange : 0 < 2 * fmt.halfRange := by omega
  have hleading : 0 < fmt.leadingBit := by omega
  have hencoded : ((sign * (2 * fmt.halfRange) + biased) * fmt.leadingBit + fraction) /
      fmt.leadingBit = sign * (2 * fmt.halfRange) + biased := by
    rw [Nat.mul_comm, Nat.mul_add_div hleading, Nat.div_eq_of_lt hfraction, Nat.add_zero]
  have hsplit : (sign * (2 * fmt.halfRange) + biased) / (2 * fmt.halfRange) = sign ∧
      (sign * (2 * fmt.halfRange) + biased) % (2 * fmt.halfRange) = biased := by
    rw [Nat.mul_comm sign, Nat.mul_add_div hrange, Nat.mul_add_mod,
      Nat.div_eq_of_lt (by omega), Nat.mod_eq_of_lt (by omega)]
    simp
  have hfractional : ((sign * (2 * fmt.halfRange) + biased) * fmt.leadingBit + fraction) %
      fmt.leadingBit = fraction := by
    rw [Nat.mul_comm, Nat.mul_add_mod, Nat.mod_eq_of_lt hfraction]
  unfold ofBits
  simp only [hencoded, hsplit, hfractional, Nat.mod_eq_of_lt hsign]
  rw [if_neg (by omega)]
  split <;> rfl

/-- Each magnitude of 64 bits is encoded, with either sign. -/
theorem Format.Holds.exists_ofBits_eq {m : Magnitude} (h : Format.double.Holds m)
    (negative : Bool) :
    ∃ bits : UInt64, Value.ofBits .double bits.toNat = .finite negative m := by
  obtain ⟨significand, exponent⟩ := m
  obtain ⟨hlt, hmin, hmax, hleading⟩ := h
  have hhalf : Format.double.halfRange = 1024 := rfl
  have hleadingBit : Format.double.leadingBit = 4503599627370496 := rfl
  have hbound : Format.double.significandBound = 9007199254740992 := rfl
  have hminExponent : Format.double.minExponent = -1074 := rfl
  have hmaxExponent : Format.double.maxExponent = 971 := rfl
  simp only [hbound, hminExponent, hmaxExponent, hleadingBit] at hlt hmin hmax hleading
  obtain ⟨sign, hsign, hnegative⟩ : ∃ sign < 2, (sign == 1) = negative :=
    ⟨negative.toNat, negative.toNat_lt, by cases negative <;> rfl⟩
  have hencoded (biased fraction : Nat) (hbiased : biased < 2047)
      (hfraction : fraction < 4503599627370496)
      (hm : (⟨significand, exponent⟩ : Magnitude) = if biased = 0 then ⟨fraction, -1074⟩
        else ⟨4503599627370496 + fraction, -1074 + ((biased : Int) - 1)⟩) :
      ∃ bits : UInt64,
        Value.ofBits .double bits.toNat = .finite negative ⟨significand, exponent⟩ := by
    refine ⟨.ofNat ((sign * 2048 + biased) * 4503599627370496 + fraction), ?_⟩
    rw [UInt64.toNat_ofNat_of_lt' (by rw [UInt64.size]; omega), hm, ← hnegative]
    exact Value.ofBits_parts .double hsign hbiased hfraction
  rcases Nat.lt_or_ge significand 4503599627370496 with hsubnormal | hnormal
  · refine hencoded 0 _ (by decide) hsubnormal ?_
    rw [if_pos rfl, Magnitude.mk.injEq]
    omega
  · refine hencoded (exponent + 1075).toNat (significand - 4503599627370496) (by omega)
      (by omega) ?_
    rw [if_neg (by omega), Magnitude.mk.injEq]
    omega

end Apicalypse.FloatingPoint

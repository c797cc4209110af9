import Apicalypse.Proofs.FloatingPoint.Rounding
import Apicalypse.Proofs.Json.Scanning

/-!
# Numbers of literals

Which literals are floating-point numbers, and that each of these is a number of 64 bits.

* `holds_of_scale?`: scaling by a power of ten stays within the format.
* `NumberLiteral.IsFloat`: the literals that are no integer. `integer?_eq_some_iff` says what the
  others are.
* `NumberLiteral.number_eq_float`: the number of such a literal belongs to the format.
* `Value.NumbersFrom`: every number in a value is that of a literal among some tokens, as in each
  value that is read from them.
-/

namespace Apicalypse.Json

open FloatingPoint (Format Magnitude)

/-! ## Scaling -/

theorem double_holds_of_roundRatio? {num den : Nat} (hden : 0 < den) {m : Magnitude}
    (h : Format.double.roundRatio? num den = some m) : Format.double.Holds m :=
  Format.holds_of_roundRatio? (by decide) (by decide) hden h

theorem powerOfTen_pos {n : Nat} (h : n ≤ maxPower) : 0 < (powerOfTen n).significand :=
  (by decide +kernel : ∀ n < maxPower + 1, 0 < (powerOfTen n).significand) n
    (Nat.lt_succ_of_le h)

theorem holds_of_div?_powerOfTen {m m' : Magnitude} {n : Nat} (hn : n ≤ maxPower)
    (h : Format.double.div? m (powerOfTen n) = some m') : Format.double.Holds m' :=
  double_holds_of_roundRatio? (Nat.mul_pos (powerOfTen_pos hn) (Nat.two_pow_pos _)) h

theorem holds_of_scaleDown {m m' : Magnitude} {n : Nat} (hm : Format.double.Holds m)
    (h : scaleDown m n = some m') : Format.double.Holds m' := by
  fun_induction scaleDown m n with
  | case1 m n hn => exact holds_of_div?_powerOfTen hn h
  | case2 m n hn hzero =>
    obtain rfl := Option.some.inj h
    exact hm
  | case3 m n hn hzero ih =>
    obtain ⟨less, hless, hlater⟩ := Option.bind_eq_some_iff.mp h
    exact ih less (holds_of_div?_powerOfTen (le_refl _) hless) hlater

theorem holds_of_scale? {m m' : Magnitude} {exponent : Int} (hm : Format.double.Holds m)
    (h : scale? m exponent = some m') : Format.double.Holds m' := by
  unfold scale? at h
  split at h
  · exact holds_of_scaleDown hm h
  · split at h
    · exact double_holds_of_roundRatio? (Nat.two_pow_pos _) h
    · split at h
      · obtain rfl := Option.some.inj h
        exact hm
      · cases h

/-! ## Literals -/

theorem gather_lt {value : Nat} (h : value < UInt64.size) (digits : List Char) :
    (gather value digits).1 < UInt64.size := by
  induction digits generalizing value with
  | nil => exact h
  | cons c digits ih =>
    simp only [gather]
    split
    · next hnext => exact ih hnext
    · exact h

/-- Digits that all fit are all gathered. -/
theorem gather_eq_of_fits {digits : List Char} {value : Nat} (h : (gather value digits).2 = 0) :
    (gather value digits).1 = Nat.ofDigitChars 10 digits value := by
  induction digits generalizing value with
  | nil => rfl
  | cons c digits ih =>
    simp only [gather] at h ⊢
    split
    · next hnext =>
      rw [if_pos hnext] at h
      rw [ih h, Nat.ofDigitChars_cons]
    · next hnext =>
      rw [if_neg hnext] at h
      cases h

namespace NumberLiteral

/-- The integer that the sign and the digits before the point write. -/
def signedWhole (literal : NumberLiteral) : Int :=
  if literal.negative then -(Nat.ofDigitChars 10 literal.whole 0 : Int)
  else Nat.ofDigitChars 10 literal.whole 0

/-- The literal is no integer: it has a point or an exponent, it is `-0`, or it lies beyond the
bounds of integers. -/
def IsFloat (literal : NumberLiteral) : Prop :=
  literal.fraction ≠ none ∨ literal.exponent ≠ none ∨
    (literal.negative = true ∧ literal.signedWhole = 0) ∨
    literal.signedWhole < -(Nat.pow 2 63 : Nat) ∨ (Nat.pow 2 64 : Nat) ≤ literal.signedWhole

theorem integer?_eq_some_iff (literal : NumberLiteral) (n : Int) :
    literal.integer? = some n ↔ ¬ literal.IsFloat ∧ literal.signedWhole = n := by
  have hpow : Nat.pow 2 63 = 9223372036854775808 ∧ Nat.pow 2 64 = 18446744073709551616 :=
    ⟨rfl, rfl⟩
  have hsize : UInt64.size = 18446744073709551616 := rfl
  unfold integer? IsFloat signedWhole
  cases literal.fraction with
  | some fraction => simp
  | none =>
  cases literal.exponent with
  | some exponent => simp
  | none =>
  simp only [Option.isSome_none, Bool.or_self, Bool.false_eq_true, ↓reduceIte, ne_eq,
    not_true_eq_false, false_or, hpow]
  rcases Nat.lt_or_ge (Nat.ofDigitChars 10 literal.whole 0) UInt64.size with hlt | hle
  · rw [gather_eq hlt]
    rw [hsize] at hlt
    cases literal.negative with
    | false => simp; omega
    | true => simp; omega
  · have htens : (gather 0 literal.whole).2 ≠ 0 := by
      intro hfits
      have hbound := gather_lt (by decide : 0 < UInt64.size) literal.whole
      rw [gather_eq_of_fits hfits] at hbound
      omega
    rw [hsize] at hle
    simp only [htens, not_false_eq_true, ↓reduceIte]
    cases literal.negative with
    | false => simp; omega
    | true => simp; omega

theorem float_eq {literal : NumberLiteral} {n : Number} (h : literal.float = .ok n) :
    ∃ m, n = .float literal.negative m ∧ Format.double.Holds m := by
  unfold float at h
  simp only at h
  split at h
  · next magnitude hmagnitude =>
    obtain ⟨gathered, hgathered, hscale⟩ := Option.bind_eq_some_iff.mp hmagnitude
    exact ⟨magnitude, (Except.ok.inj h).symm,
      holds_of_scale? (double_holds_of_roundRatio? Nat.one_pos hgathered) hscale⟩
  · cases h

theorem number_eq_float {literal : NumberLiteral} {negative : Bool} {m : Magnitude}
    (h : literal.number = .ok (.float negative m)) :
    literal.IsFloat ∧ literal.negative = negative ∧ Format.double.Holds m := by
  unfold number at h
  split at h
  · cases h
  · next hinteger =>
    have hfloat : literal.IsFloat := by
      by_contra hinteger'
      rw [(literal.integer?_eq_some_iff _).mpr ⟨hinteger', rfl⟩] at hinteger
      cases hinteger
    obtain ⟨m', hm, hholds⟩ := float_eq h
    obtain ⟨rfl, rfl⟩ := Number.float.inj hm
    exact ⟨hfloat, rfl, hholds⟩

/-- A literal of a natural number writes a 64-bit number. -/
theorem lt_of_number_eq {literal : NumberLiteral} {n : Nat}
    (h : literal.number = .ok (.integer n)) : n < UInt64.size := by
  unfold number at h
  split at h
  · next value hinteger =>
    obtain rfl : value = n := Number.integer.inj (Except.ok.inj h)
    obtain ⟨hbounds, hsigned⟩ := (literal.integer?_eq_some_iff _).mp hinteger
    have hsize : UInt64.size = Nat.pow 2 64 := rfl
    unfold IsFloat at hbounds
    omega
  · obtain ⟨m, hm, -⟩ := float_eq h
    cases hm

end NumberLiteral

/-! ## Values -/

/-- Every number in the value is that of a literal among the tokens. -/
inductive Value.NumbersFrom (tokens : List Token) : Value → Prop
  | null : NumbersFrom tokens .null
  | boolean (value : Bool) : NumbersFrom tokens (.boolean value)
  | string (text : String) : NumbersFrom tokens (.string text)
  | number {literal : NumberLiteral} {n : Number} (hmem : .number literal ∈ tokens)
      (h : literal.number = .ok n) : NumbersFrom tokens (.number n)
  | list {items : List Value} (h : ∀ item ∈ items, NumbersFrom tokens item) :
      NumbersFrom tokens (.list items)
  | object {members : List (String × Value)} (h : ∀ member ∈ members, NumbersFrom tokens member.2) :
      NumbersFrom tokens (.object members)

namespace Spelling

variable {tokens : List Token}

theorem number_mem_tokens_list (literal : NumberLiteral) (items : List Spelling) :
    .number literal ∈ (list items).tokens ↔ .number literal ∈ tokensAfterItem items := by
  cases items <;> simp [Spelling.tokens, tokensAfterItem]

theorem number_mem_tokens_object (literal : NumberLiteral)
    (members : List (StringLiteral × Spelling)) :
    .number literal ∈ (object members).tokens ↔ .number literal ∈ tokensAfterMember members := by
  cases members <;> simp [Spelling.tokens, tokensAfterMember]

mutual

/-- The numbers of a value that is spelt are those of literals among its tokens. -/
theorem numbersFrom (spelling : Spelling) {value : Value} (h : spelling.value? = some value)
    (hsub : ∀ literal, .number literal ∈ spelling.tokens → .number literal ∈ tokens) :
    value.NumbersFrom tokens := by
  match spelling with
  | .null =>
    obtain rfl := Option.some.inj h
    exact .null
  | .boolean b =>
    obtain rfl := Option.some.inj h
    exact .boolean b
  | .number literal =>
    obtain ⟨n, hn, rfl⟩ := Option.map_eq_some_iff.mp h
    refine .number (hsub literal (List.mem_singleton_self _)) ?_
    cases hnumber : literal.number with
    | error failure => simp [hnumber, Except.toOption] at hn
    | ok n' => simpa [hnumber, Except.toOption] using hn
  | .string literal =>
    obtain ⟨text, -, rfl⟩ := Option.map_eq_some_iff.mp h
    exact .string text
  | .list items =>
    obtain ⟨values, hvalues, rfl⟩ := Option.map_eq_some_iff.mp h
    simp only [number_mem_tokens_list] at hsub
    exact .list (numbersFrom_items items hvalues hsub)
  | .object members =>
    obtain ⟨values, hvalues, rfl⟩ := Option.map_eq_some_iff.mp h
    simp only [number_mem_tokens_object] at hsub
    exact .object (numbersFrom_members members hvalues hsub)

theorem numbersFrom_items (items : List Spelling) {values : List Value}
    (h : values? items = some values)
    (hsub : ∀ literal, .number literal ∈ tokensAfterItem items → .number literal ∈ tokens) :
    ∀ value ∈ values, value.NumbersFrom tokens := by
  match items with
  | [] =>
    obtain rfl := Option.some.inj h
    exact List.forall_mem_nil _
  | item :: later =>
    obtain ⟨value, hvalue, hlater⟩ := Option.bind_eq_some_iff.mp h
    obtain ⟨values, hvalues, heq⟩ := Option.bind_eq_some_iff.mp hlater
    obtain rfl := Option.some.inj heq
    rw [List.forall_mem_cons]
    exact ⟨numbersFrom item hvalue fun literal hmem =>
        hsub literal (by simp [tokensAfterItem, hmem]),
      numbersFrom_items later hvalues fun literal hmem =>
        hsub literal (by simp [tokensAfterItem, hmem])⟩

theorem numbersFrom_members (members : List (StringLiteral × Spelling))
    {values : List (String × Value)} (h : members? members = some values)
    (hsub : ∀ literal, .number literal ∈ tokensAfterMember members → .number literal ∈ tokens) :
    ∀ member ∈ values, member.2.NumbersFrom tokens := by
  match members with
  | [] =>
    obtain rfl := Option.some.inj h
    exact List.forall_mem_nil _
  | (name, spelling) :: later =>
    obtain ⟨member, hmember, hlater⟩ := Option.bind_eq_some_iff.mp h
    obtain ⟨values, hvalues, heq⟩ := Option.bind_eq_some_iff.mp hlater
    obtain rfl := Option.some.inj heq
    obtain ⟨text, -, hpart⟩ := Option.bind_eq_some_iff.mp hmember
    obtain ⟨value, hvalue, hpair⟩ := Option.bind_eq_some_iff.mp hpart
    obtain rfl := Option.some.inj hpair
    rw [List.forall_mem_cons]
    exact ⟨numbersFrom spelling hvalue fun literal hmem =>
        hsub literal (by simp [tokensAfterMember, memberTokens, hmem]),
      numbersFrom_members later hvalues fun literal hmem =>
        hsub literal (by simp [tokensAfterMember, hmem])⟩

end

end Spelling

/-- The numbers of a value that is read are those of literals among the tokens. -/
theorem numbersFrom_of_read {tokens rest : List Token} {value : Value}
    (h : read tokens = .ok (value, rest)) : value.NumbersFrom tokens := by
  obtain ⟨spelling, rfl, hvalue, -⟩ := (read_eq_ok_iff tokens value rest).mp h
  exact spelling.numbersFrom hvalue fun literal hmem => List.mem_append_left rest hmem

end Apicalypse.Json

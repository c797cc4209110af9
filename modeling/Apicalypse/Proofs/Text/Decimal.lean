import Apicalypse.Text.Decimal
import Std.Data.String.ToInt

/-!
# Numerals of integers

`decimal` writes the library's numeral of an integer, so different integers have different
numerals.

* `decimal_injective`, `not_mem_decimal`: an integer is known from its numeral, which holds digits
  and at most a minus sign.
* `exists_digits_cons`, `ofDigitChars_digits`: the digits of a natural number and what they count.
* `IsNumeralOf`, `decimal_eq_iff`: `decimal` writes the canonical numeral of an integer, and an
  integer has no other.
* `WritesWord`, `readWord_eq_ok_iff`: the texts that are read as a 64-bit number write it in digits.
* `Exceeds`, `readDigits_eq_tooLarge_iff`: digits at the front that write too large a number decide,
  whatever follows them.
* `Faulty`, `readWord_eq_error_iff`: what is wrong with the other texts.
-/

namespace Apicalypse.Text

theorem decimal_eq_repr (n : Int) : decimal n = n.repr := by
  cases n with
  | ofNat n => simp [decimal, digits, Int.repr, Nat.repr_eq_ofList_toDigits]
  | negSucc n => simp [decimal, digits, Int.repr, Nat.repr_eq_ofList_toDigits, String.ofList_cons]

theorem decimal_injective : Function.Injective decimal := by
  intro m n h
  rw [decimal_eq_repr, decimal_eq_repr] at h
  exact Int.repr_injective h

theorem isDigit_of_mem_digits (n : Nat) : ∀ c ∈ digits n, c.isDigit = true :=
  fun _ hc => Nat.isDigit_of_mem_toDigits (by decide) (by decide) hc

theorem not_mem_digits {c : Char} (hc : c.isDigit = false) (n : Nat) : c ∉ digits n := by
  intro h
  have hdigit := isDigit_of_mem_digits n c h
  rw [hc] at hdigit
  cases hdigit

/-- A numeral of a natural number holds digits only. -/
theorem not_mem_decimal_natCast {c : Char} (hc : c.isDigit = false) (n : Nat) :
    c ∉ (decimal n).toList := by
  simpa [decimal] using not_mem_digits hc n

/-- A numeral of an integer holds digits and at most a minus sign. -/
theorem not_mem_decimal {c : Char} (hc : c.isDigit = false) (hminus : c ≠ '-') (n : Int) :
    c ∉ (decimal n).toList := by
  cases n with
  | ofNat n => exact not_mem_decimal_natCast hc n
  | negSucc n => simpa [decimal, hminus] using not_mem_digits hc (n + 1)

theorem decimal_ne_empty (n : Int) : decimal n ≠ "" := by
  cases n with
  | ofNat n => simp [decimal, digits]
  | negSucc n => simp [decimal]

/-! ## Digits -/

theorem toDigits_head_ne_zero {n : Nat} (hn : 0 < n) {c : Char} {rest : List Char}
    (h : Nat.toDigits 10 n = c :: rest) : c ≠ '0' := by
  induction n using Nat.strongRecOn generalizing c rest with
  | ind n ih =>
    rw [Nat.toDigits_eq_if (by decide)] at h
    split at h
    case isTrue =>
      obtain ⟨rfl, -⟩ := List.cons.inj h
      rw [ne_eq, Nat.digitChar_eq_zero]
      omega
    case isFalse hlarge =>
      obtain ⟨d, more, hmore⟩ := List.exists_cons_of_ne_nil (Nat.toDigits_ne_nil (n := n / 10))
      rw [hmore] at h
      obtain ⟨rfl, -⟩ := List.cons.inj h
      exact ih (n / 10) (by omega) (by omega) hmore

/-- A natural number has at least one digit, and no more when the first one is zero. -/
theorem exists_digits_cons (n : Nat) : ∃ c rest, digits n = c :: rest ∧ c.isDigit = true ∧
    (∀ d ∈ rest, d.isDigit = true) ∧ (c = '0' → rest = []) := by
  obtain ⟨c, rest, h⟩ := List.exists_cons_of_ne_nil (Nat.toDigits_ne_nil (n := n) (b := 10))
  have hdigit : ∀ d ∈ c :: rest, d.isDigit = true := h ▸ isDigit_of_mem_digits n
  rw [List.forall_mem_cons] at hdigit
  refine ⟨c, rest, h, hdigit.1, hdigit.2, fun hzero => ?_⟩
  rcases Nat.eq_zero_or_pos n with rfl | hn
  · exact (List.cons.inj h).2.symm
  · exact absurd hzero (toDigits_head_ne_zero hn h)

theorem getLast?_digits (n : Nat) : (digits n).getLast? = some (n % 10).digitChar := by
  rw [digits, Nat.toDigits_eq_if (by decide)]
  split
  · next h => rw [Nat.mod_eq_of_lt h, List.getLast?_singleton]
  · rw [List.getLast?_concat]

theorem ofDigitChars_digits (n : Nat) : Nat.ofDigitChars 10 (digits n) 0 = n :=
  Nat.ofDigitChars_toDigits (by decide) (by decide)

theorem le_ofDigitChars (digits : List Char) (value : Nat) :
    value ≤ Nat.ofDigitChars 10 digits value := by
  rw [Nat.ofDigitChars_eq_ofDigitChars_zero]
  have := Nat.le_mul_of_pos_left value (Nat.pow_pos (n := digits.length) (show 0 < 10 by decide))
  omega

/-- A digit is the character of what it counts. -/
theorem digitChar_of_isDigit {c : Char} (h : c.isDigit = true) :
    c.toNat - '0'.toNat < 10 ∧ (c.toNat - '0'.toNat).digitChar = c := by
  obtain ⟨hleast, hgreatest⟩ : 48 ≤ c.toNat ∧ c.toNat ≤ 57 := by
    simpa [Char.isDigit, UInt32.le_iff_toNat_le, ← Char.toNat_val] using h
  have hchar : ∀ n < 10, n.digitChar = Char.ofNat (48 + n) := by decide
  have hzero : '0'.toNat = 48 := rfl
  refine ⟨by omega, ?_⟩
  rw [hchar _ (by omega), hzero, Nat.add_sub_cancel' hleast, Char.ofNat_toNat]

/-- Digits go on with those of a number other than zero. -/
theorem digits_ofDigitChars_of_pos {value : Nat} (hvalue : 0 < value) {cs : List Char}
    (hcs : ∀ c ∈ cs, c.isDigit = true) :
    digits (Nat.ofDigitChars 10 cs value) = digits value ++ cs := by
  induction cs generalizing value with
  | nil => simp
  | cons c rest ih =>
    rw [List.forall_mem_cons] at hcs
    obtain ⟨hc, hchar⟩ := digitChar_of_isDigit hcs.1
    rw [Nat.ofDigitChars_cons, ih (by omega) hcs.2, digits,
      ← Nat.toDigits_append_toDigits (by decide) hvalue hc, Nat.toDigits_of_lt_base hc, hchar,
      List.append_assoc]
    rfl

/-- Digits without a leading zero are those of the number that they count. -/
theorem digits_ofDigitChars {cs : List Char} (hne : cs ≠ []) (hcs : ∀ c ∈ cs, c.isDigit = true)
    (hzero : cs.head? = some '0' → cs = ['0']) : digits (Nat.ofDigitChars 10 cs 0) = cs := by
  obtain ⟨c, rest, rfl⟩ := List.exists_cons_of_ne_nil hne
  rw [List.forall_mem_cons] at hcs
  obtain ⟨hc, hchar⟩ := digitChar_of_isDigit hcs.1
  rw [Nat.ofDigitChars_cons, Nat.mul_zero, Nat.zero_add]
  rcases Nat.eq_zero_or_pos (c.toNat - '0'.toNat) with hvalue | hvalue
  · rw [hvalue] at hchar
    obtain rfl : rest = [] := (List.cons.inj (hzero (by rw [List.head?_cons, ← hchar]; rfl))).2
    rw [Nat.ofDigitChars_nil, hvalue, ← hchar]
    rfl
  · rw [digits_ofDigitChars_of_pos hvalue hcs.2, digits, Nat.toDigits_of_lt_base hc, hchar]
    rfl

/-! ## Canonical numerals -/

/-- The text is digits that count the integer's size, after a `-` when the integer is negative. No
zero leads other digits. -/
def IsNumeralOf (n : Int) (text : String) : Prop :=
  ∃ cs : List Char, text.toList = (if n < 0 then ['-'] else []) ++ cs ∧ cs ≠ [] ∧
    (∀ c ∈ cs, c.isDigit = true) ∧ (cs.head? = some '0' → cs = ['0']) ∧
    Nat.ofDigitChars 10 cs 0 = n.natAbs

theorem toList_decimal (n : Int) :
    (decimal n).toList = (if n < 0 then ['-'] else []) ++ digits n.natAbs := by
  cases n with
  | ofNat n => simp [decimal]
  | negSucc n => simp [decimal, Int.negSucc_lt_zero, Int.natAbs_negSucc]

/-- An integer has one canonical numeral. -/
theorem decimal_eq_iff (n : Int) (text : String) : decimal n = text ↔ IsNumeralOf n text := by
  constructor
  · rintro rfl
    obtain ⟨c, rest, hdigits, hc, hrest, hzero⟩ := exists_digits_cons n.natAbs
    refine ⟨digits n.natAbs, toList_decimal n, Nat.toDigits_ne_nil, ?_, ?_, ofDigitChars_digits _⟩
    · rw [hdigits]
      exact List.forall_mem_cons.mpr ⟨hc, hrest⟩
    · rw [hdigits]
      intro hhead
      obtain rfl : c = '0' := Option.some.inj hhead
      rw [hzero rfl]
  · rintro ⟨cs, htext, hne, hdigits, hzero, hvalue⟩
    rw [← String.toList_inj, toList_decimal, htext, ← hvalue, digits_ofDigitChars hne hdigits hzero]

/-! ## Reading -/

theorem readDigits_eq_ok {value n : Nat} {cs : List Char} (h : readDigits value cs = .ok n)
    (hvalue : value < UInt64.size) :
    (∀ c ∈ cs, c.isDigit = true) ∧ Nat.ofDigitChars 10 cs value = n ∧ n < UInt64.size := by
  induction cs generalizing value with
  | nil =>
    obtain rfl := Except.ok.inj h
    exact ⟨fun c hc => absurd hc List.not_mem_nil, rfl, hvalue⟩
  | cons c rest ih =>
    rw [readDigits] at h
    cases hc : c.isDigit with
    | false => simp [digitValue?, hc] at h
    | true =>
      simp only [digitValue?, hc, ↓reduceIte] at h
      split at h
      · next hbound =>
        obtain ⟨hrest, hn, hsize⟩ := ih h hbound
        exact ⟨List.forall_mem_cons.mpr ⟨hc, hrest⟩, by rw [Nat.ofDigitChars_cons, hn], hsize⟩
      · cases h

/-- The text writes the number in digits. Zeros may lead them and one `+` may precede them. -/
def WritesWord (text : String) (n : UInt64) : Prop :=
  ∃ cs : List Char, (text.toList = cs ∨ text.toList = '+' :: cs) ∧ cs ≠ [] ∧
    (∀ c ∈ cs, c.isDigit = true) ∧ Nat.ofDigitChars 10 cs 0 = n.toNat

theorem writesWord_of_readWord {text : String} {n : UInt64} (h : readWord text = .ok n) :
    WritesWord text n := by
  unfold readWord at h
  cases hm : readNumeral text.toList with
  | error reason => rw [hm] at h; cases h
  | ok m =>
    obtain rfl : UInt64.ofNat m = n := by rw [hm] at h; exact Except.ok.inj h
    unfold readNumeral at hm
    split at hm
    · cases hm
    · cases hm
    · next rest hne htext =>
      obtain ⟨hdigits, hvalue, hsize⟩ := readDigits_eq_ok hm (by decide)
      exact ⟨rest, .inr htext, fun e => hne e, hdigits,
        by rw [hvalue, UInt64.toNat_ofNat_of_lt' hsize]⟩
    · next hempty _ _ =>
      obtain ⟨hdigits, hvalue, hsize⟩ := readDigits_eq_ok hm (by decide)
      exact ⟨_, .inl rfl, fun e => hempty e, hdigits,
        by rw [hvalue, UInt64.toNat_ofNat_of_lt' hsize]⟩

/-! ## What cannot be read -/

theorem readDigits_cons {c : Char} (hc : c.isDigit = true) (value : Nat) (rest : List Char) :
    readDigits value (c :: rest) =
      if 10 * value + (c.toNat - '0'.toNat) < UInt64.size then
        readDigits (10 * value + (c.toNat - '0'.toNat)) rest
      else .error .tooLarge := by
  simp [readDigits, digitValue?, hc]

/-- Digits of a number below `2^64` are read. -/
theorem readDigits_of_digits {value : Nat} {cs : List Char} (hcs : ∀ c ∈ cs, c.isDigit = true)
    (h : Nat.ofDigitChars 10 cs value < UInt64.size) :
    readDigits value cs = .ok (Nat.ofDigitChars 10 cs value) := by
  induction cs generalizing value with
  | nil => rfl
  | cons c rest ih =>
    rw [List.forall_mem_cons] at hcs
    rw [Nat.ofDigitChars_cons] at h ⊢
    rw [readDigits_cons hcs.1, if_pos (Nat.lt_of_le_of_lt (le_ofDigitChars rest _) h), ih hcs.2 h]

/-- The digits at the front, however few, write a number that is too large. -/
def Exceeds (cs : List Char) (value : Nat) : Prop :=
  ∃ front, front <+: cs ∧ (∀ c ∈ front, c.isDigit = true) ∧
    UInt64.size ≤ Nat.ofDigitChars 10 front value

theorem readDigits_of_exceeds {value : Nat} {front : List Char}
    (hfront : ∀ c ∈ front, c.isDigit = true) (hvalue : value < UInt64.size)
    (h : UInt64.size ≤ Nat.ofDigitChars 10 front value) (rest : List Char) :
    readDigits value (front ++ rest) = .error .tooLarge := by
  induction front generalizing value with
  | nil =>
    rw [Nat.ofDigitChars_nil] at h
    exact absurd hvalue (Nat.not_lt.mpr h)
  | cons c front ih =>
    rw [List.forall_mem_cons] at hfront
    rw [Nat.ofDigitChars_cons] at h
    rw [List.cons_append, readDigits_cons hfront.1]
    split
    · next hbound => exact ih hfront.2 hbound h
    · rfl

theorem exceeds_of_readDigits {value : Nat} {cs : List Char}
    (h : readDigits value cs = .error .tooLarge) : Exceeds cs value := by
  induction cs generalizing value with
  | nil => cases h
  | cons c rest ih =>
    cases hc : c.isDigit with
    | false => simp [readDigits, digitValue?, hc] at h
    | true =>
      rw [readDigits_cons hc] at h
      split at h
      · obtain ⟨front, hprefix, hfront, hsize⟩ := ih h
        exact ⟨c :: front, (List.cons_prefix_cons).mpr ⟨rfl, hprefix⟩,
          List.forall_mem_cons.mpr ⟨hc, hfront⟩, by rwa [Nat.ofDigitChars_cons]⟩
      · next hbound =>
        exact ⟨[c], by simp, by simpa using hc,
          by rw [Nat.ofDigitChars_cons, Nat.ofDigitChars_nil]; omega⟩

/-- The number is too large once the digits so far write one that is, whatever follows them. -/
theorem readDigits_eq_tooLarge_iff {value : Nat} (hvalue : value < UInt64.size) (cs : List Char) :
    readDigits value cs = .error .tooLarge ↔ Exceeds cs value := by
  refine ⟨exceeds_of_readDigits, ?_⟩
  rintro ⟨front, ⟨rest, rfl⟩, hfront, hsize⟩
  exact readDigits_of_exceeds hfront hvalue hsize rest

theorem readDigits_ne_empty (value : Nat) (cs : List Char) :
    readDigits value cs ≠ .error .empty := by
  induction cs generalizing value with
  | nil => exact fun h => by cases h
  | cons c rest ih =>
    cases hc : c.isDigit with
    | false => simp [readDigits, digitValue?, hc]
    | true =>
      rw [readDigits_cons hc]
      split
      · exact ih _
      · exact fun h => by cases h

/-- A text without the `+` that may precede its digits. -/
def withoutPlus : List Char → List Char
  | '+' :: rest => rest
  | cs => cs

theorem withoutPlus_of_ne {c : Char} (h : c ≠ '+') (rest : List Char) :
    withoutPlus (c :: rest) = c :: rest := by
  unfold withoutPlus
  split
  · next heq => exact absurd (List.cons.inj heq).1 h
  · rfl

/-- A text that is neither empty nor a lone `+` is read by its digits. -/
theorem readNumeral_of_withoutPlus {cs : List Char} (h : withoutPlus cs ≠ []) :
    readNumeral cs = readDigits 0 (withoutPlus cs) := by
  unfold readNumeral
  split
  · exact absurd rfl h
  · exact absurd rfl h
  · rfl
  · next hempty hlone hplus =>
    cases cs with
    | nil => rfl
    | cons c rest => rw [withoutPlus_of_ne (fun hc => hplus rest (by rw [hc]))]

theorem eq_nil_or_plus {cs : List Char} (h : withoutPlus cs = []) : cs = [] ∨ cs = ['+'] := by
  unfold withoutPlus at h
  split at h
  · exact .inr (by rw [h])
  · exact .inl h

/-! ## The texts of 64-bit numbers -/

theorem writesWord_iff {text : String} {n : UInt64} : WritesWord text n ↔
    withoutPlus text.toList ≠ [] ∧ (∀ c ∈ withoutPlus text.toList, c.isDigit = true) ∧
      Nat.ofDigitChars 10 (withoutPlus text.toList) 0 = n.toNat := by
  constructor
  · rintro ⟨cs, htext | htext, hne, hdigits, hvalue⟩
    · obtain ⟨c, rest, rfl⟩ := List.exists_cons_of_ne_nil hne
      have hc : c ≠ '+' := by
        rintro rfl
        exact absurd (hdigits '+' List.mem_cons_self) (by decide)
      rw [htext, withoutPlus_of_ne hc]
      exact ⟨hne, hdigits, hvalue⟩
    · rw [htext]
      exact ⟨hne, hdigits, hvalue⟩
  · rintro ⟨hne, hdigits, hvalue⟩
    refine ⟨withoutPlus text.toList, ?_, hne, hdigits, hvalue⟩
    unfold withoutPlus
    split
    · next htext => exact .inr htext
    · exact .inl rfl

theorem readWord_of_writesWord {text : String} {n : UInt64} (h : WritesWord text n) :
    readWord text = .ok n := by
  obtain ⟨hne, hdigits, hvalue⟩ := writesWord_iff.mp h
  have hsize : Nat.ofDigitChars 10 (withoutPlus text.toList) 0 < UInt64.size :=
    hvalue ▸ n.toNat_lt_size
  rw [readWord, readNumeral_of_withoutPlus hne, readDigits_of_digits hdigits hsize, hvalue]
  exact congrArg Except.ok (UInt64.ofNat_toNat)

theorem readWord_eq_ok_iff {text : String} {n : UInt64} :
    readWord text = .ok n ↔ WritesWord text n :=
  ⟨writesWord_of_readWord, readWord_of_writesWord⟩

/-- The numeral of a 64-bit number writes it. -/
theorem writesWord_decimal (n : UInt64) : WritesWord (decimal n.toNat) n :=
  ⟨digits n.toNat, .inl (String.toList_ofList), Nat.toDigits_ne_nil, isDigit_of_mem_digits n.toNat,
    ofDigitChars_digits n.toNat⟩

/-- What keeps a text from being read as a 64-bit number. -/
def Faulty (text : String) : NumeralError → Prop
  | .empty => text = ""
  | .tooLarge => Exceeds (withoutPlus text.toList) 0
  | .invalidDigit => text ≠ "" ∧ ¬ Exceeds (withoutPlus text.toList) 0 ∧ ∀ n, ¬ WritesWord text n

theorem readWord_eq_error_iff_of_withoutPlus {text : String} (h : withoutPlus text.toList ≠ [])
    (reason : NumeralError) : readWord text = .error reason ↔
      readDigits 0 (withoutPlus text.toList) = .error reason := by
  rw [readWord, readNumeral_of_withoutPlus h]
  cases readDigits 0 (withoutPlus text.toList) <;> simp [Except.map]

theorem readWord_eq_tooLarge_iff (text : String) :
    readWord text = .error .tooLarge ↔ Exceeds (withoutPlus text.toList) 0 := by
  by_cases h : withoutPlus text.toList = []
  · have hsmall : ¬ Exceeds [] 0 := fun hex => by
      rw [← readDigits_eq_tooLarge_iff (by decide)] at hex
      cases hex
    rw [h]
    refine iff_of_false (fun hread => ?_) hsmall
    rcases eq_nil_or_plus h with htext | htext <;>
      simp [readWord, htext, readNumeral, Except.map] at hread
  · rw [readWord_eq_error_iff_of_withoutPlus h, readDigits_eq_tooLarge_iff (by decide)]

theorem readWord_eq_empty_iff (text : String) : readWord text = .error .empty ↔ text = "" := by
  constructor
  · intro hread
    by_cases h : withoutPlus text.toList = []
    · rcases eq_nil_or_plus h with htext | htext
      · exact String.toList_eq_nil_iff.mp htext
      · simp [readWord, htext, readNumeral, Except.map] at hread
    · rw [readWord_eq_error_iff_of_withoutPlus h] at hread
      exact absurd hread (readDigits_ne_empty 0 _)
  · rintro rfl
    rfl

/-- A text that is not read has one of the three faults, and no text has two. -/
theorem readWord_eq_error_iff {text : String} {reason : NumeralError} :
    readWord text = .error reason ↔ Faulty text reason := by
  cases reason with
  | empty => exact readWord_eq_empty_iff text
  | tooLarge => exact readWord_eq_tooLarge_iff text
  | invalidDigit =>
    -- The third fault is what the number and the other two leave over.
    simp only [Faulty, ne_eq, ← readWord_eq_empty_iff, ← readWord_eq_tooLarge_iff,
      ← readWord_eq_ok_iff]
    rcases readWord text with (_ | _ | _) | n <;> simp

end Apicalypse.Text

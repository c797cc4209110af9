import Apicalypse.Proofs.Text.Separated
import Apicalypse.Text.Hexadecimal
import Apicalypse.Text.Quoted

/-!
# Reading quoted texts

The escapes of a quoted text can be undone, one character after the other, so the text is known from
its quoted form; and a quote in the text is escaped, so it is known where the form ends.

* `hexadecimal`, `hexadecimal_toDigits`: the number that hexadecimal digits write.
* `readCharacter`, `readCharacter_escapeChar`: the first character of an escaped text, and what
  follows it.
* `quote_append_inj`: a quoted text and what follows it.
-/

namespace Apicalypse.Text

/-! ## Code points -/

/-- The number that hexadecimal digits write. -/
def hexadecimal (digits : List Char) : Nat :=
  digits.foldl (fun value c => 16 * value + (hexValue? c).getD 0) 0

theorem hexValue?_digitChar {d : Nat} (h : d < 16) : hexValue? d.digitChar = some d :=
  (by decide : ∀ d < 16, hexValue? (Nat.digitChar d) = some d) d h

theorem hexadecimal_toDigits (n : Nat) : hexadecimal (Nat.toDigits 16 n) = n := by
  induction n using Nat.strongRecOn with
  | ind n ih =>
    rw [Nat.toDigits_eq_if (by decide)]
    split
    case isTrue hsmall => simp [hexadecimal, hexValue?_digitChar hsmall]
    case isFalse hlarge =>
      have hlast := hexValue?_digitChar (Nat.mod_lt n (by decide : 0 < 16))
      have hfront := ih (n / 16) (by omega)
      unfold hexadecimal at hfront ⊢
      rw [List.foldl_append, hfront, List.foldl_cons, hlast]
      exact Nat.div_add_mod n 16

theorem not_mem_toDigits {c : Char} (hc : ∀ d, Nat.digitChar d ≠ c) (n : Nat) :
    c ∉ Nat.toDigits 16 n := by
  induction n using Nat.strongRecOn with
  | ind n ih =>
    rw [Nat.toDigits_eq_if (by decide)]
    split
    case isTrue => simpa using (hc n).symm
    case isFalse hlarge =>
      have hfront := ih (n / 16) (by omega)
      simpa [hfront] using (hc (n % 16)).symm

/-! ## Characters -/

/-- The character that stands behind a backslash under its short name or its code point. -/
def readEscape : List Char → Option (Char × List Char)
  | [] => none
  | 't' :: rest => some ('\t', rest)
  | 'n' :: rest => some ('\n', rest)
  | 'r' :: rest => some ('\r', rest)
  | '0' :: rest => some (Char.ofNat 0, rest)
  | 'u' :: rest =>
    (splitFirst? '\x7d' rest.tail).map fun sides => (Char.ofNat (hexadecimal sides.1), sides.2)
  | c :: rest => some (c, rest)

/-- The first character of an escaped text, and what follows it. -/
def readCharacter : List Char → Option (Char × List Char)
  | [] => none
  | c :: rest => if c = '\\' then readEscape rest else some (c, rest)

theorem readCharacter_codePointEscape (c : Char) (rest : List Char) :
    readCharacter (codePointEscape c ++ rest) = some (c, rest) := by
  have hbrace : '\x7d' ∉ Nat.toDigits 16 c.toNat :=
    not_mem_toDigits (fun d => Nat.digitChar_ne '\x7d' (by decide)) c.toNat
  have hread : readCharacter (codePointEscape c ++ rest) =
      (splitFirst? '\x7d' (Nat.toDigits 16 c.toNat ++ '\x7d' :: rest)).map
        fun sides => (Char.ofNat (hexadecimal sides.1), sides.2) := by
    simp [codePointEscape, readCharacter, readEscape]
  rw [hread, splitFirst?_append hbrace, Option.map_some, hexadecimal_toDigits, Char.ofNat_toNat]

/-- Every escape is undone. -/
theorem readCharacter_escapeChar (c : Char) (rest : List Char) :
    readCharacter (escapeChar c ++ rest) = some (c, rest) := by
  unfold escapeChar
  split
  · next h => subst h; rfl
  split
  · next h => subst h; rfl
  split
  · next h => subst h; rfl
  split
  · next h => subst h; rfl
  split
  · next h => subst h; rfl
  split
  · next h =>
    have hc : c = Char.ofNat 0 := by rw [← h, Char.ofNat_toNat]
    subst hc
    rfl
  split
  · next hbackslash _ _ _ _ _ => simp [readCharacter, hbackslash]
  · exact readCharacter_codePointEscape c rest

theorem escapeChar_append_inj {c d : Char} {s t : List Char}
    (h : escapeChar c ++ s = escapeChar d ++ t) : c = d ∧ s = t := by
  have hread := readCharacter_escapeChar c s
  rw [h, readCharacter_escapeChar] at hread
  obtain ⟨rfl, rfl⟩ := Prod.mk.inj (Option.some.inj hread)
  exact ⟨rfl, rfl⟩

/-- No escaped character begins with a quote. -/
theorem escapeChar_append_ne (c : Char) (s t : List Char) : escapeChar c ++ s ≠ '"' :: t := by
  intro h
  have hread := readCharacter_escapeChar c s
  rw [h] at hread
  obtain ⟨rfl, rfl⟩ := Prod.mk.inj (Option.some.inj hread)
  simp [escapeChar] at h

/-! ## Texts -/

theorem flatMap_escapeChar_inj {cs ds s t : List Char}
    (h : cs.flatMap escapeChar ++ '"' :: s = ds.flatMap escapeChar ++ '"' :: t) :
    cs = ds ∧ s = t := by
  induction cs generalizing ds with
  | nil =>
    cases ds with
    | nil => exact ⟨rfl, (List.cons.inj h).2⟩
    | cons d ds =>
      rw [List.flatMap_cons, List.append_assoc] at h
      exact absurd h.symm (escapeChar_append_ne d _ s)
  | cons c cs ih =>
    rw [List.flatMap_cons, List.append_assoc] at h
    cases ds with
    | nil => exact absurd h (escapeChar_append_ne c _ t)
    | cons d ds =>
      rw [List.flatMap_cons, List.append_assoc] at h
      obtain ⟨rfl, hrest⟩ := escapeChar_append_inj h
      obtain ⟨rfl, rfl⟩ := ih hrest
      exact ⟨rfl, rfl⟩

/-- **A quoted text is read back**, whatever it holds, and so is what follows it. -/
theorem quote_append_inj {v w : String} {s t : List Char}
    (h : (quote v).toList ++ s = (quote w).toList ++ t) : v = w ∧ s = t := by
  simp only [quote, String.toList_ofList, List.cons_append, List.append_assoc,
    List.nil_append] at h
  obtain ⟨hchars, hrest⟩ := flatMap_escapeChar_inj (List.cons.inj h).2
  exact ⟨String.toList_inj.mp hchars, hrest⟩

end Apicalypse.Text

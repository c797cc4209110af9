import Apicalypse.Libraries
import Apicalypse.Proofs.Text.Slice
import Mathlib.Data.List.Basic

/-!
# Directives whose parts can be taken

A part of a directive is taken by its byte positions in the trimmed text, but from the text as it
was. Where that cuts no character, nothing breaks off.

* `LogDirective.Fits`: the positions in one text are between characters of another one, too.
* `LogDirective.Uncut`: a text without a blank before it, or in ASCII; `Uncut.fits`: the trimmed
  text fits it.
* `LogDirective.Whole`: no part was missing; `LogDirective.whole_read`: so it is when such a text is
  read.
* `Libraries.readFilter_ne_panicked`: directives that are such texts can be read, or are malformed.
-/

namespace Apicalypse

open Text (byteLength byteLength_append byteLength_concat byteLength_of_ascii)

namespace LogDirective

/-! ## Texts with the same positions -/

/-- The positions between the characters of a text are such positions of another text, too. -/
def Fits (inside text : List Char) : Prop :=
  ∀ before, before <+: inside → ∃ start, start <+: text ∧ byteLength start = byteLength before

theorem fits_of_prefix {inside text : List Char} (h : inside <+: text) : Fits inside text :=
  fun before hbefore => ⟨before, hbefore.trans h, rfl⟩

theorem fits_of_ascii {inside text : List Char} (h : inside <:+: text)
    (hascii : ∀ c ∈ text, c.toNat < 128) : Fits inside text := by
  intro before hbefore
  have hlength : before.length ≤ text.length := Nat.le_trans hbefore.length_le h.length_le
  have hmem : ∀ c ∈ before, c ∈ text := fun c hc => h.subset (hbefore.subset hc)
  refine ⟨text.take before.length, List.take_prefix _ _, ?_⟩
  rw [byteLength_of_ascii fun c hc => hascii c (List.mem_of_mem_take hc),
    byteLength_of_ascii fun c hc => hascii c (hmem c hc), List.length_take,
    Nat.min_eq_left hlength]

section Fits

variable {inside text before part rest : List Char}

/-- A part that stands between two positions can be taken. -/
theorem Fits.take (h : Fits inside text) (part : DirectivePart) (before taken : List Char)
    (hinside : inside = before ++ (taken ++ rest)) :
    ∃ cs, take part text (byteLength before) (byteLength before + byteLength taken) = .ok cs := by
  obtain ⟨start, hstart, hlength⟩ := h before ⟨taken ++ rest, hinside.symm⟩
  obtain ⟨long, hlong, hlength'⟩ :=
    h (before ++ taken) ⟨rest, by rw [hinside, List.append_assoc]⟩
  rw [byteLength_append] at hlength'
  obtain ⟨cs, after, rfl, hcs⟩ : ∃ cs after, text = start ++ (cs ++ after) ∧
      byteLength cs = byteLength taken := by
    rcases List.prefix_or_prefix_of_prefix hstart hlong with ⟨cs, rfl⟩ | ⟨more, rfl⟩
    · obtain ⟨after, rfl⟩ := hlong
      rw [byteLength_append] at hlength'
      exact ⟨cs, after, by rw [List.append_assoc], by omega⟩
    · -- Only an empty part is as short as that.
      obtain ⟨after, rfl⟩ := hstart
      rw [byteLength_append] at hlength
      exact ⟨[], after, by rw [List.nil_append], by rw [byteLength]; omega⟩
  refine ⟨cs, ?_⟩
  rw [LogDirective.take, ← hlength, ← hcs, Text.slice_append]
  rfl

/-- The rest after a position can be taken. -/
theorem Fits.takeRest (h : Fits inside text) (part : DirectivePart) (before : List Char)
    (hinside : inside = before ++ rest) :
    ∃ cs, LogDirective.take part text (byteLength before) (byteLength text) = .ok cs := by
  obtain ⟨start, ⟨after, rfl⟩, hstart⟩ := h before ⟨rest, hinside.symm⟩
  have hslice := Text.slice_append start after []
  rw [List.append_nil, ← byteLength_append] at hslice
  exact ⟨after, by rw [LogDirective.take, ← hstart, hslice]; rfl⟩

/-! ## Reading -/

/-- No part was missing. -/
def Whole {α : Type} (result : Except DirectiveFault α) : Prop :=
  ∀ part reason, result ≠ .error (.broken part reason)

theorem whole_ok {α : Type} (a : α) : Whole (.ok a) := nofun

theorem whole_malformed {α : Type} : Whole (.error .malformed : Except DirectiveFault α) := nofun

theorem Whole.bind {α β : Type} {first : Except DirectiveFault α}
    {next : α → Except DirectiveFault β} (hfirst : Whole first)
    (hnext : ∀ a, first = .ok a → Whole (next a)) : Whole (first >>= next) := by
  cases first with
  | error e => exact fun part reason h => hfirst part reason (congrArg _ (Except.error.inj h))
  | ok a => exact hnext a rfl

/-- What stands before the first character without a property, and that character. -/
theorem of_dropWhile_eq_cons {p : Char → Bool} {cs : List Char} {bound : Char}
    (h : cs.dropWhile p = bound :: rest) :
    cs = cs.takeWhile p ++ bound :: rest ∧ p bound = false := by
  have hsplit : cs.takeWhile p ++ cs.dropWhile p = cs := List.takeWhile_append_dropWhile
  have hhead := List.head?_dropWhile_not p cs
  rw [h] at hsplit hhead
  exact ⟨hsplit.symm, hhead⟩

theorem whole_readThreshold (cs : List Char) : Whole (readThreshold cs) := by
  unfold readThreshold
  split
  · exact whole_ok _
  · split
    · exact whole_ok _
    · exact whole_malformed

theorem whole_readEnding (h : Fits inside text) (hinside : inside = before ++ rest) :
    Whole (readEnding text (byteLength before) rest) := by
  unfold readEnding
  split
  · exact whole_ok _
  · next cs =>
    have hinside' : inside = (before ++ ['=']) ++ cs := by simp [hinside]
    obtain ⟨taken, htaken⟩ := h.takeRest .threshold (before ++ ['=']) hinside'
    rw [byteLength_concat rfl] at htaken
    rw [htaken]
    exact whole_readThreshold taken
  · exact whole_malformed

/-- A condition on a field is malformed, or it ends at a position between two characters. -/
theorem readCondition_cases (h : Fits inside text) (hinside : inside = before ++ rest)
    {result : Except DirectiveFault (FieldCondition × Nat × List Char)}
    (hresult : readCondition text (byteLength before) rest = result) :
    result = .error .malformed ∨ ∃ condition before' rest', inside = before' ++ rest' ∧
      result = .ok (condition, byteLength before', rest') := by
  have hsplit : rest = rest.takeWhile (· ≠ '\x7d') ++ rest.dropWhile (· ≠ '\x7d') :=
    List.takeWhile_append_dropWhile.symm
  obtain ⟨taken, htaken⟩ :=
    h.take .condition before (rest.takeWhile (· ≠ '\x7d')) (hsplit ▸ hinside)
  simp only [readCondition, htaken, bind, Except.bind] at hresult
  split at hresult
  · next rest' hrest =>
    split at hresult
    · exact .inl hresult.symm
    · split at hresult
      · next condition _ =>
        refine .inr ⟨condition, before ++ (rest.takeWhile (· ≠ '\x7d') ++ ['\x7d', ']']), rest', ?_,
          ?_⟩
        · rw [hrest] at hsplit
          simpa [hinside] using hsplit
        · rw [← hresult, byteLength_append, byteLength_append, Nat.add_assoc]
          rfl
      · exact .inl hresult.symm
  · exact .inl hresult.symm
  · exact .inl hresult.symm

theorem whole_readBracket (h : Fits inside text) (hinside : inside = before ++ rest)
    (target : String) : Whole (readBracket text target (byteLength before) rest) := by
  unfold readBracket
  dsimp only
  split
  · exact whole_malformed
  · next bound rest' hrest =>
    obtain ⟨hsplit, hbound⟩ := of_dropWhile_eq_cons hrest
    generalize (rest.takeWhile fun c => c ≠ ']' ∧ c ≠ '\x7b') = span at hsplit ⊢
    have htake (part : DirectivePart) := h.take part before span (hsplit ▸ hinside)
    -- Either character that ends the span takes one byte.
    have hsize : bound.utf8Size = 1 := by
      rw [decide_eq_false_iff_not] at hbound
      obtain rfl | rfl : bound = ']' ∨ bound = '\x7b' := by tauto
      all_goals rfl
    have hnext :
        byteLength (before ++ span ++ [bound]) = byteLength before + byteLength span + 1 := by
      rw [byteLength_concat hsize, byteLength_append]
    have hinside' : inside = before ++ span ++ [bound] ++ rest' := by
      rw [hinside, hsplit]
      simp
    rw [← hnext]
    split
    · obtain ⟨taken, htaken⟩ := htake .span
      rw [htaken]
      refine ((whole_ok taken).bind fun _ _ => whole_ok _).bind fun _ _ => ?_
      refine ((whole_readEnding h hinside').bind fun _ _ => whole_ok _).bind fun _ _ => whole_ok _
    · obtain ⟨taken, htaken⟩ := htake .openSpan
      rw [htaken]
      refine (whole_ok taken).bind fun _ _ => Whole.bind ?_ fun found hfound => ?_
      · obtain hresult | ⟨_, _, _, -, hresult⟩ := readCondition_cases h hinside' rfl
        · rw [hresult]
          exact whole_malformed
        · rw [hresult]
          exact whole_ok _
      · obtain hresult | ⟨condition, before', rest'', hinside'', hresult⟩ :=
          readCondition_cases h hinside' hfound
        · cases hresult
        · cases hresult
          refine (whole_readEnding h hinside'').bind fun _ _ => ?_
          split <;> exact whole_ok _

end Fits

theorem trimEnd_isPrefix (text : List Char) : Text.trimEnd text <+: text := by
  have h := List.reverse_prefix.mpr (List.dropWhile_suffix (l := text.reverse) Text.isBlank)
  rwa [List.reverse_reverse] at h

/-- The trimmed text is a part of the text. -/
theorem trim_isInfix (text : List Char) : Text.trim text <:+: text :=
  (trimEnd_isPrefix _).isInfix.trans (List.dropWhile_suffix _).isInfix

/-- Without a blank before it the trimmed text is what the text begins with. -/
theorem trim_isPrefix {text : List Char} (h : ∀ c ∈ text.head?, Text.isBlank c = false) :
    Text.trim text <+: text := by
  have hstart : Text.trimStart text = text := by
    cases text with
    | nil => rfl
    | cons c rest => exact List.dropWhile_cons_of_neg (by simpa using h c rfl)
  rw [Text.trim, hstart]
  exact trimEnd_isPrefix text

/-- There is no blank before the text, or the text is in ASCII. -/
def Uncut (text : List Char) : Prop :=
  (∀ c ∈ text.head?, Text.isBlank c = false) ∨ ∀ c ∈ text, c.toNat < 128

theorem Uncut.fits {text : List Char} (h : Uncut text) : Fits (Text.trim text) text := by
  rcases h with h | h
  · exact fits_of_prefix (trim_isPrefix h)
  · exact fits_of_ascii (trim_isInfix text) h

/-- **Reading a directive misses no part**, unless there is a blank before it and it is not in
ASCII. -/
theorem whole_read {text : List Char} (h : Uncut text) : Whole (read text) := by
  have hfits := h.fits
  unfold read
  split
  · exact whole_malformed
  · next rest htrim =>
    have hinside : Text.trim text = ['['] ++ rest := htrim
    exact whole_readBracket hfits hinside ""
  · next first rest _ htrim =>
    split
    · dsimp only
      split
      · exact whole_ok _
      · next bound rest' hrest =>
        obtain ⟨hsplit, hbound⟩ := of_dropWhile_eq_cons hrest
        generalize (rest.takeWhile fun c => c ≠ '=' ∧ c ≠ '[') = name at hsplit ⊢
        have hinside : Text.trim text = (first :: name) ++ (bound :: rest') := by
          rw [htrim, hsplit]
          rfl
        have htake (part : DirectivePart) := hfits.take part [] (first :: name) hinside
        simp only [byteLength, Nat.zero_add] at htake
        split
        · obtain ⟨taken, htaken⟩ := htake .target
          rw [byteLength, htaken]
          refine (whole_ok taken).bind fun _ _ => ?_
          exact (whole_readEnding hfits hinside).bind fun _ _ => whole_ok _
        · next hne =>
          obtain rfl : bound = '[' := by
            rw [decide_eq_false_iff_not] at hbound
            tauto
          obtain ⟨taken, htaken⟩ := htake .openTarget
          have hinside' : Text.trim text = (first :: name ++ ['[']) ++ rest' := by
            rw [hinside]
            simp
          rw [byteLength, htaken, ← byteLength, ← byteLength_concat (rfl : '['.utf8Size = 1)]
          exact (whole_ok taken).bind fun _ _ => whole_readBracket hfits hinside' _
    · exact whole_malformed

end LogDirective

namespace LogFilter

theorem whole_mapM {α β : Type} {f : α → Except DirectiveFault β} {xs : List α}
    (h : ∀ x ∈ xs, LogDirective.Whole (f x)) : LogDirective.Whole (xs.mapM f) := by
  induction xs with
  | nil => exact LogDirective.whole_ok _
  | cons x rest ih =>
    rw [List.forall_mem_cons] at h
    rw [List.mapM_cons]
    exact h.1.bind fun _ _ => (ih h.2).bind fun _ _ => LogDirective.whole_ok _

theorem whole_read {text : String}
    (h : ∀ part ∈ Text.split ',' text.toList, LogDirective.Uncut part) :
    LogDirective.Whole (read text) := by
  refine (whole_mapM fun part hpart => ?_).bind fun _ _ => LogDirective.whole_ok _
  exact LogDirective.whole_read (h part (List.mem_of_mem_filter hpart))

end LogFilter

/-- **The reading of directives does not break off** when none of them has both a blank before it
and a character outside of ASCII. -/
theorem Libraries.readFilter_ne_panicked (sources : Sources) {text : String}
    (h : ∀ part ∈ Text.split ',' text.toList, LogDirective.Uncut part) (panic : Panic) :
    (ofSources sources).readFilter text ≠ .error (.panicked panic) := by
  have hread := LogFilter.whole_read h
  unfold ofSources
  dsimp only
  split
  · exact nofun
  · exact nofun
  · next part reason hbroken => exact absurd hbroken (hread part reason)

end Apicalypse

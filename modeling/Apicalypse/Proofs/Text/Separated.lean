import Apicalypse.Text.Split

/-!
# Texts between separators

What can be read back from texts that are written one after the other with separators between
them, when no text holds a separator.

* `append_cons_inj`: what stands before the first separator, the separator and what follows.
* `append_cons_inj_right`: the same for the last separator.
* `joined_inj`, `joined_inj_of_ne_empty`: the texts of a list.

Where a text may hold the separator, it has several pieces.

* `of_splitFirst?_eq_some`, `of_splitFirst?_eq_none`, `splitFirst?_append`: the two sides of the
  first separator.
* `joined_flatMap_pieces`: the pieces of texts, joined by the separator, are the joined texts.
* `pieces_joined`, `pieces_joined_eq_iff`: the pieces of a joined text are those of the texts, and
  these are the texts themselves just when none of them holds the separator.
-/

namespace Apicalypse.Text

/-- Both sides of the first character with a property, and the character. -/
theorem append_cons_inj {p : Char → Prop} {a a' b b' : List Char} {c c' : Char}
    (ha : ∀ x ∈ a, ¬ p x) (ha' : ∀ x ∈ a', ¬ p x) (hc : p c) (hc' : p c')
    (h : a ++ c :: b = a' ++ c' :: b') : a = a' ∧ c = c' ∧ b = b' := by
  induction a generalizing a' with
  | nil =>
    cases a' with
    | nil => simpa using h
    | cons x rest =>
      obtain ⟨rfl, -⟩ := List.cons.inj h
      exact absurd hc (ha' c (by simp))
  | cons y rest ih =>
    cases a' with
    | nil =>
      obtain ⟨rfl, -⟩ := List.cons.inj h
      exact absurd hc' (ha y (by simp))
    | cons x rest' =>
      obtain ⟨rfl, ht⟩ := List.cons.inj h
      obtain ⟨rfl, hcc, hb⟩ := ih (fun z hz => ha z (by simp [hz]))
        (fun z hz => ha' z (by simp [hz])) ht
      exact ⟨rfl, hcc, hb⟩

/-- Both sides of the last separator. -/
theorem append_cons_inj_right {sep : Char} {a a' b b' : List Char} (hb : sep ∉ b)
    (hb' : sep ∉ b') (h : a ++ sep :: b = a' ++ sep :: b') : a = a' ∧ b = b' := by
  have hr : b.reverse ++ sep :: a.reverse = b'.reverse ++ sep :: a'.reverse := by
    simpa using congrArg List.reverse h
  obtain ⟨hbb, -, haa⟩ := append_cons_inj (p := (· = sep))
    (fun x hx e => hb (by simpa [e] using hx)) (fun x hx e => hb' (by simpa [e] using hx))
    rfl rfl hr
  exact ⟨List.reverse_inj.mp haa, List.reverse_inj.mp hbb⟩

/-- A joined text holds nothing but what its parts and the separator hold. -/
theorem not_mem_joined {sep : String} {c : Char} (hsep : c ∉ sep.toList) {texts : List String}
    (h : ∀ t ∈ texts, c ∉ t.toList) : c ∉ (joined sep texts).toList := by
  induction texts with
  | nil => simp [joined]
  | cons t rest ih =>
    rw [List.forall_mem_cons] at h
    cases rest with
    | nil => simpa [joined] using h.1
    | cons u rest =>
      rw [joined, String.intercalate_cons_cons, String.toList_append, String.toList_append]
      simp only [List.mem_append, not_or]
      exact ⟨⟨h.1, hsep⟩, ih h.2⟩

theorem split_eq_splitOn (sep : Char) (cs : List Char) : split sep cs = cs.splitOn sep := by
  induction cs with
  | nil => rfl
  | cons c rest ih =>
    rw [List.splitOn, List.splitOnP_cons_eq_if_modifyHead, split, ih]
    by_cases hc : c = sep
    · simp [hc, List.splitOn]
    · obtain ⟨piece, pieces, hp⟩ := List.exists_cons_of_ne_nil (List.splitOn_ne_nil sep rest)
      rw [List.splitOn] at hp
      simp [hc, List.splitOn, hp]

/-- Texts without the separator are the pieces of the joined text. -/
theorem pieces_joined_of_not_mem {sep : String} {c : Char} (hsep : sep.toList = [c])
    {texts : List String} (h : ∀ t ∈ texts, c ∉ t.toList) (hne : texts ≠ []) :
    pieces c (joined sep texts) = texts := by
  have hlists : ∀ cs ∈ texts.map String.toList, c ∉ cs := by simpa using h
  have hsplit := List.splitOn_intercalate c hlists (by simpa using hne)
  simp [pieces, joined, split_eq_splitOn, String.toList_intercalate, hsep, hsplit,
    Function.comp_def]

/-- Texts without the separator are known from the joined text, once there is one at least. -/
theorem joined_inj {sep : String} {c : Char} (hsep : sep.toList = [c]) {xs ys : List String}
    (hx : ∀ x ∈ xs, c ∉ x.toList) (hy : ∀ y ∈ ys, c ∉ y.toList) (hxs : xs ≠ []) (hys : ys ≠ [])
    (h : joined sep xs = joined sep ys) : xs = ys := by
  rw [← pieces_joined_of_not_mem hsep hx hxs, h, pieces_joined_of_not_mem hsep hy hys]

theorem joined_eq_empty_iff {sep : String} {texts : List String} (h : ∀ t ∈ texts, t ≠ "") :
    joined sep texts = "" ↔ texts = [] := by
  match texts with
  | [] => simp [joined]
  | [t] => simpa [joined] using h
  | t :: u :: rest =>
    have ht := h t List.mem_cons_self
    simp [joined, String.intercalate_cons_cons, ht]

/-- Where no text is empty, all lists are known from the joined text, the empty one, too. -/
theorem joined_inj_of_ne_empty {sep : String} {c : Char} (hsep : sep.toList = [c])
    {xs ys : List String} (hx : ∀ x ∈ xs, c ∉ x.toList ∧ x ≠ "")
    (hy : ∀ y ∈ ys, c ∉ y.toList ∧ y ≠ "") (h : joined sep xs = joined sep ys) : xs = ys := by
  have hempty : xs = [] ↔ ys = [] := by
    rw [← @joined_eq_empty_iff sep xs fun x hmem => (hx x hmem).2, h,
      joined_eq_empty_iff fun y hmem => (hy y hmem).2]
  by_cases hxs : xs = []
  · rw [hxs, hempty.mp hxs]
  · exact joined_inj hsep (fun x hmem => (hx x hmem).1) (fun y hmem => (hy y hmem).1) hxs
      (mt hempty.mpr hxs) h

/-! ## The first separator -/

theorem of_splitFirst?_eq_none {sep : Char} {cs : List Char} (h : splitFirst? sep cs = none) :
    sep ∉ cs := by
  induction cs with
  | nil => exact List.not_mem_nil
  | cons c rest ih =>
    by_cases hc : c = sep
    · simp [splitFirst?, hc] at h
    · have hrest : splitFirst? sep rest = none := by simpa [splitFirst?, hc] using h
      simp [Ne.symm hc, ih hrest]

theorem of_splitFirst?_eq_some {sep : Char} {cs before after : List Char}
    (h : splitFirst? sep cs = some (before, after)) :
    sep ∉ before ∧ cs = before ++ sep :: after := by
  induction cs generalizing before with
  | nil => cases h
  | cons c rest ih =>
    by_cases hc : c = sep
    · obtain ⟨rfl, rfl⟩ : [] = before ∧ rest = after := by simpa [splitFirst?, hc] using h
      exact ⟨List.not_mem_nil, by rw [hc]; rfl⟩
    · rw [splitFirst?, if_neg hc, Option.map_eq_some_iff] at h
      obtain ⟨⟨front, back⟩, hrest, heq⟩ := h
      obtain ⟨rfl, rfl⟩ := Prod.mk.inj heq
      obtain ⟨hfront, rfl⟩ := ih hrest
      exact ⟨by simp [Ne.symm hc, hfront], rfl⟩

theorem splitFirst?_append {sep : Char} {before : List Char} (h : sep ∉ before)
    (after : List Char) : splitFirst? sep (before ++ sep :: after) = some (before, after) := by
  induction before with
  | nil => simp [splitFirst?]
  | cons c rest ih =>
    rw [List.mem_cons, not_or] at h
    simp [splitFirst?, Ne.symm h.1, ih h.2]

/-! ## All pieces -/

theorem pieces_ne_nil (sep : Char) (s : String) : pieces sep s ≠ [] := by
  simp [pieces, split_eq_splitOn, List.splitOn_ne_nil]

/-- The pieces of a text, joined again, are the text; it may have empty ones at any place. -/
theorem joined_pieces {sep : String} {c : Char} (hsep : sep.toList = [c]) (s : String) :
    joined sep (pieces c s) = s := by
  apply String.toList_inj.mp
  simp [joined, pieces, hsep, split_eq_splitOn, List.intercalate_splitOn, Function.comp_def]

theorem joined_flatMap_pieces {sep : String} {c : Char} (hsep : sep.toList = [c])
    (texts : List String) : joined sep (texts.flatMap (pieces c)) = joined sep texts := by
  induction texts with
  | nil => rfl
  | cons t rest ih =>
    cases rest with
    | nil => simpa [joined] using joined_pieces hsep t
    | cons u rest =>
      have hrest : (u :: rest).flatMap (pieces c) ≠ [] := by simp [pieces_ne_nil]
      have ht := joined_pieces hsep t
      unfold joined at ih ht ⊢
      rw [List.flatMap_cons, String.intercalate_append_of_ne_nil (pieces_ne_nil c t) hrest, ht, ih,
        String.intercalate_cons_cons]

theorem not_mem_of_mem_split {sep : Char} {cs piece : List Char} (h : piece ∈ split sep cs) :
    sep ∉ piece := by
  induction cs generalizing piece with
  | nil =>
    obtain rfl := List.mem_singleton.mp h
    exact List.not_mem_nil
  | cons c rest ih =>
    rw [split] at h
    split at h
    case isTrue =>
      rcases List.mem_cons.mp h with rfl | h
      · exact List.not_mem_nil
      · exact ih h
    case isFalse hc =>
      split at h
      · obtain rfl := List.mem_singleton.mp h
        simpa using Ne.symm hc
      · next first more hsplit =>
        -- Only the first piece grows, by a character that is not the separator.
        rcases List.mem_cons.mp h with rfl | h
        · simpa [Ne.symm hc] using ih (hsplit ▸ List.mem_cons_self)
        · exact ih (hsplit ▸ List.mem_cons_of_mem first h)

theorem not_mem_of_mem_pieces {sep : Char} {s piece : String} (h : piece ∈ pieces sep s) :
    sep ∉ piece.toList := by
  obtain ⟨cs, hcs, rfl⟩ := List.mem_map.mp h
  simpa using not_mem_of_mem_split hcs

theorem pieces_joined {sep : String} {c : Char} (hsep : sep.toList = [c]) {texts : List String}
    (hne : texts ≠ []) : pieces c (joined sep texts) = texts.flatMap (pieces c) := by
  obtain ⟨t, rest, rfl⟩ := List.exists_cons_of_ne_nil hne
  rw [← joined_flatMap_pieces hsep, pieces_joined_of_not_mem hsep]
  · intro piece hpiece
    obtain ⟨u, -, hu⟩ := List.mem_flatMap.mp hpiece
    exact not_mem_of_mem_pieces hu
  · simp [pieces_ne_nil]

/-- Cutting a joined text gives the texts back just when none of them holds the separator. -/
theorem pieces_joined_eq_iff {sep : String} {c : Char} (hsep : sep.toList = [c])
    {texts : List String} (hne : texts ≠ []) :
    pieces c (joined sep texts) = texts ↔ ∀ t ∈ texts, c ∉ t.toList := by
  constructor
  · intro h t ht
    rw [← h] at ht
    exact not_mem_of_mem_pieces ht
  · exact fun h => pieces_joined_of_not_mem hsep h hne

end Apicalypse.Text

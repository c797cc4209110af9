/-!
# The first fault in a list

* `FirstFaulty`: the first element of a list that is not sound has a fault.
* `firstFaulty_cons`, `firstFaulty_append`: where it stands.
* `mapM_eq_error_iff`: the error of going through a list.
-/

namespace Apicalypse

/-- A list has an element with a fault, and those before it are sound. -/
def FirstFaulty {α : Type} (sound faulty : α → Prop) (xs : List α) : Prop :=
  ∃ before x after, xs = before ++ x :: after ∧ (∀ y ∈ before, sound y) ∧ faulty x

section FirstFaulty

variable {α : Type} {sound faulty : α → Prop}

@[simp] theorem not_firstFaulty_nil : ¬ FirstFaulty sound faulty [] := by simp [FirstFaulty]

theorem firstFaulty_cons {x : α} {xs : List α} :
    FirstFaulty sound faulty (x :: xs) ↔ faulty x ∨ sound x ∧ FirstFaulty sound faulty xs := by
  constructor
  · rintro ⟨_ | ⟨y, before⟩, found, after, heq, hbefore, hfound⟩
    · obtain ⟨rfl, -⟩ := List.cons.inj heq
      exact .inl hfound
    · obtain ⟨rfl, rfl⟩ := List.cons.inj heq
      rw [List.forall_mem_cons] at hbefore
      exact .inr ⟨hbefore.1, before, found, after, rfl, hbefore.2, hfound⟩
  · rintro (h | ⟨h, before, found, after, rfl, hbefore, hfound⟩)
    · exact ⟨[], x, xs, rfl, by simp, h⟩
    · exact ⟨x :: before, found, after, rfl, List.forall_mem_cons.mpr ⟨h, hbefore⟩, hfound⟩

theorem firstFaulty_append {xs ys : List α} : FirstFaulty sound faulty (xs ++ ys) ↔
    FirstFaulty sound faulty xs ∨ (∀ x ∈ xs, sound x) ∧ FirstFaulty sound faulty ys := by
  induction xs with
  | nil => simp
  | cons x xs ih =>
    rw [List.cons_append, firstFaulty_cons, firstFaulty_cons, ih, List.forall_mem_cons, and_or_left,
      or_assoc, and_assoc]

end FirstFaulty

/-- Going through a list fails with the error of the first element that fails, whatever comes after
it. -/
theorem mapM_eq_error_iff {α β ε : Type} {f : α → Except ε β} {xs : List α} {e : ε} :
    xs.mapM f = .error e ↔
      FirstFaulty (fun x => ∃ b, f x = .ok b) (fun x => f x = .error e) xs := by
  induction xs with
  | nil => simp [pure, Except.pure]
  | cons x xs ih =>
    rw [List.mapM_cons, firstFaulty_cons, ← ih]
    cases f x with
    | error e' => simp [bind, Except.bind]
    | ok b => cases xs.mapM f <;> simp [bind, Except.bind, pure, Except.pure]

end Apicalypse

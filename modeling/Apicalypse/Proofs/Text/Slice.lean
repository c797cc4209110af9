import Apicalypse.Text.Slice

/-!
# Parts between characters

* `byteLength_append`, `byteLength_concat`, `byteLength_of_ascii`: how many bytes texts take.
* `cutAt_append`: a text that is put together is cut where it was.
* `slice_append`: what stands between two texts is the part between their positions.
-/

namespace Apicalypse.Text

theorem byteLength_append (start rest : List Char) :
    byteLength (start ++ rest) = byteLength start + byteLength rest := by
  induction start with
  | nil => simp [byteLength]
  | cons c start ih => rw [List.cons_append, byteLength, byteLength, ih, Nat.add_assoc]

theorem byteLength_concat {c : Char} (hc : c.utf8Size = 1) (before : List Char) :
    byteLength (before ++ [c]) = byteLength before + 1 := by
  rw [byteLength_append, byteLength, byteLength, hc]

theorem byteLength_of_ascii {cs : List Char} (h : ∀ c ∈ cs, c.toNat < 128) :
    byteLength cs = cs.length := by
  induction cs with
  | nil => rfl
  | cons c rest ih =>
    rw [List.forall_mem_cons] at h
    have hc : c.utf8Size = 1 := by
      rw [Char.utf8Size_eq_one_iff, UInt32.le_iff_toNat_le]
      exact Nat.le_of_lt_succ h.1
    rw [byteLength, hc, ih h.2, List.length_cons, Nat.add_comm]

theorem cutAt_append (edge : Edge) (first : Nat) (start rest : List Char) :
    cutAt edge (first + byteLength start) first (start ++ rest) = .ok (start, rest) := by
  induction start generalizing first with
  | nil => cases rest <;> simp [cutAt, byteLength]
  | cons c start ih =>
    have := c.utf8Size_pos
    rw [List.cons_append, byteLength, cutAt, if_neg (by omega), if_neg (by omega), ← Nat.add_assoc,
      ih]
    rfl

theorem slice_append (start part rest : List Char) :
    slice (start ++ (part ++ rest)) (byteLength start) (byteLength start + byteLength part) =
      .ok part := by
  have hlength : byteLength (start ++ (part ++ rest)) =
      byteLength start + (byteLength part + byteLength rest) := by
    rw [byteLength_append, byteLength_append]
  have hstart := cutAt_append .start 0 start (part ++ rest)
  rw [Nat.zero_add] at hstart
  rw [slice, if_neg (by omega), if_neg (by omega), if_neg (by omega), hstart]
  show (cutAt .stop _ _ (part ++ rest) >>= fun cut => pure cut.1) = _
  rw [cutAt_append]
  rfl

end Apicalypse.Text

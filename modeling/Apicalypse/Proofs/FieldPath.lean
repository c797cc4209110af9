import Apicalypse.FieldPath
import Apicalypse.Proofs.Text.Separated

/-!
# Paths and their texts

A path is the list of its segments, however it was built. Its text has dots between the segments,
and a segment may hold dots, too, so a text can have several paths.

* `Expression.segments_eval`: an expression builds the path of its literal names.
* `render_join`: the text of a path that is reached through another.
* `pieces_render_eq_iff`: the text, cut at its dots, gives the segments back just when they hold no
  dot themselves.
* `render_eq_iff`: paths have one text when their segments have the same pieces between dots.
* `path_algebra`: the algebra of paths and their texts.
-/

namespace Apicalypse.FieldPath

/-! ## Segments -/

theorem segments_injective : Function.Injective segments := by
  rintro ⟨head, tail⟩ ⟨head', tail'⟩ h
  obtain ⟨rfl, rfl⟩ := List.cons.inj h
  rfl

theorem segments_ne_nil (path : FieldPath) : path.segments ≠ [] := List.cons_ne_nil _ _

theorem isNested_iff (path : FieldPath) : path.isNested = true ↔ 2 ≤ path.segments.length := by
  rcases path with ⟨head, _ | ⟨next, rest⟩⟩ <;> simp [isNested, segments]

theorem join_assoc (p q r : FieldPath) : (p.join q).join r = p.join (q.join r) := by
  apply segments_injective
  simp only [segments_join, List.append_assoc]

namespace Expression

/-- An expression builds the path of its literal names, each one segment. -/
theorem segments_eval (e : Expression) : e.eval.segments = e.names := by
  induction e with
  | name segment => rfl
  | nested parent child ih => rw [eval, segments_nested, ih, names]
  | join parent child ihp ihc => rw [eval, segments_join, ihp, ihc, names]

end Expression

/-! ## Texts -/

@[simp] theorem render_name (segment : String) : (name segment).render = segment := by
  simp [render, Text.joined]

/-- A path is more than its text, taken literally, just when it goes through a relation. -/
theorem eq_name_render_iff (p : FieldPath) : p = name p.render ↔ p.isNested = false := by
  obtain ⟨head, tail⟩ := p
  cases tail with
  | nil =>
    have hname : name head = name (name head).render := by rw [render_name]
    exact ⟨fun _ => rfl, fun _ => hname⟩
  | cons next rest => simp [isNested, name]

theorem render_join (p q : FieldPath) : (p.join q).render = p.render ++ "." ++ q.render := by
  rw [render, segments_join, Text.joined,
    String.intercalate_append_of_ne_nil p.segments_ne_nil q.segments_ne_nil]
  rfl

/-- No segment of the path holds a dot. -/
def Undotted (path : FieldPath) : Prop := ∀ segment ∈ path.segments, '.' ∉ segment.toList

theorem pieces_render (path : FieldPath) :
    Text.pieces '.' path.render = path.segments.flatMap (Text.pieces '.') :=
  Text.pieces_joined rfl path.segments_ne_nil

theorem pieces_render_eq_iff (path : FieldPath) :
    Text.pieces '.' path.render = path.segments ↔ path.Undotted :=
  Text.pieces_joined_eq_iff rfl path.segments_ne_nil

/-- What a text tells of its path: the pieces of the segments, but not which of them were one
segment. -/
theorem render_eq_iff (p q : FieldPath) : p.render = q.render ↔
    p.segments.flatMap (Text.pieces '.') = q.segments.flatMap (Text.pieces '.') := by
  constructor
  · intro h
    rw [← pieces_render, ← pieces_render, h]
  · intro h
    have hjoined (path : FieldPath) :
        Text.joined "." (path.segments.flatMap (Text.pieces '.')) = path.render :=
      Text.joined_flatMap_pieces rfl path.segments
    rw [← hjoined, h, hjoined]

theorem eq_of_render_eq {p q : FieldPath} (hp : p.Undotted) (hq : q.Undotted)
    (h : p.render = q.render) : p = q := by
  apply segments_injective
  rw [← p.pieces_render_eq_iff.mpr hp, h, q.pieces_render_eq_iff.mpr hq]

/-- **The algebra of paths.** An expression of any shape builds the path whose segments are its
literal names in reading order; there is one at least, a dot in a name cuts nothing, and the path is
nested when there are two. Joining is associative and puts a dot between the texts. The text of a
path, cut at its dots, is the list of the segments again just when these hold no dots, empty or not;
among such paths no two have the same text, and in general two paths have the same text when their
segments have the same pieces. -/
theorem path_algebra :
    (∀ e : Expression, e.eval.segments = e.names ∧ e.eval.segments ≠ [] ∧
        (e.eval.isNested = true ↔ 2 ≤ e.names.length)) ∧
      (∀ p q r : FieldPath, (p.join q).join r = p.join (q.join r)) ∧
      (∀ (parent : String) (p : FieldPath), nested parent p = (name parent).join p) ∧
      (∀ p q : FieldPath, (p.join q).render = p.render ++ "." ++ q.render) ∧
      (∀ p : FieldPath, Text.pieces '.' p.render = p.segments ↔ p.Undotted) ∧
      (∀ p q : FieldPath, p.Undotted → q.Undotted → p.render = q.render → p = q) ∧
      ∀ p q : FieldPath, p.render = q.render ↔
        p.segments.flatMap (Text.pieces '.') = q.segments.flatMap (Text.pieces '.') := by
  refine ⟨fun e => ⟨e.segments_eval, segments_ne_nil _, ?_⟩, join_assoc, fun _ _ => rfl,
    render_join, pieces_render_eq_iff, fun _ _ => eq_of_render_eq, render_eq_iff⟩
  rw [isNested_iff, e.segments_eval]

/-- A dotted name is one segment, although a nested path has the same text. -/
example : (name "a.").render = (nested "a" (name "")).render ∧
    name "a." ≠ nested "a" (name "") := by
  decide

/-- Relations and fields without names. -/
def nameless : Expression := .join (.nested "" (.name "")) (.join (.name "url") (.name ""))

/-- The same names, put together in another order. -/
def namelessFromRight : Expression := .nested "" (.nested "" (.nested "url" (.name "")))

theorem nameless_path_algebra :
    nameless ≠ namelessFromRight ∧ nameless.eval.Undotted ∧ namelessFromRight.eval.Undotted ∧
      nameless.eval.render = "..url." ∧ nameless.eval = namelessFromRight.eval := by
  have hleft : nameless.eval.Undotted := by
    simp [Undotted, Expression.segments_eval, nameless, Expression.names]
  have hright : namelessFromRight.eval.Undotted := by
    simp [Undotted, Expression.segments_eval, namelessFromRight, Expression.names]
  have h : nameless.eval.render = namelessFromRight.eval.render := by decide
  exact ⟨by decide, hleft, hright, by decide,
    path_algebra.2.2.2.2.2.1 _ _ hleft hright h⟩

end Apicalypse.FieldPath

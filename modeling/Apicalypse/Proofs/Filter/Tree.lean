import Apicalypse.Filter
import Apicalypse.Proofs.Text.Separated

/-!
# Texts of filter trees

A joined filter keeps only the texts of its two sides, so the text of a tree shows its leaves and
connectives from left to right and nothing of its shape.

* `separated`: texts with connectives between them.
* `render_join`: joining filters puts the connective between their texts, at any depth.
* `render_eval`: the text of a tree is that of its leaves and connectives in reading order.
* `separated_inj`: texts that hold no sign of a connective are read back from between the
  connectives.
* `render_flat`: both directions for trees.
-/

namespace Apicalypse

namespace Connective

/-- The character of a connective. -/
def sign : Connective → Char
  | and => '&'
  | or => '|'

/-- What stands between two joined texts. -/
def separator : Connective → String
  | and => " & "
  | or => " | "

theorem toList_separator (c : Connective) : c.separator.toList = [' ', c.sign, ' '] := by
  cases c <;> rfl

end Connective

/-- The characters that connectives are written with. -/
def IsSign (x : Char) : Prop := x = '&' ∨ x = '|'

instance (x : Char) : Decidable (IsSign x) := inferInstanceAs (Decidable (_ ∨ _))

theorem Connective.isSign_sign (c : Connective) : IsSign c.sign := by
  cases c
  · exact .inl rfl
  · exact .inr rfl

theorem Connective.sign_injective : Function.Injective Connective.sign := by
  intro c d h
  cases c <;> cases d <;> first | rfl | cases h

/-! ## Separated texts -/

/-- Texts with connectives between them, of which there is one less. -/
def separated : List String → List Connective → String
  | text :: texts, connective :: connectives =>
    text ++ connective.separator ++ separated texts connectives
  | text :: _, [] => text
  | [], _ => ""

/-- A connective after as many texts as it takes is followed by the rest. -/
theorem separated_append {texts : List String} {cs : List Connective}
    (h : texts.length = cs.length + 1) (c : Connective) (texts' : List String)
    (cs' : List Connective) : separated (texts ++ texts') (cs ++ c :: cs') =
      separated texts cs ++ c.separator ++ separated texts' cs' := by
  induction cs generalizing texts with
  | nil =>
    obtain ⟨text, rfl⟩ := List.length_eq_one_iff.mp h
    rfl
  | cons d ds ih =>
    match texts with
    | text :: rest =>
      have hrest : rest.length = ds.length + 1 := by simpa using h
      simp only [List.cons_append, separated, ih hrest, String.append_assoc]

/-- The text holds no sign of a connective. -/
def Plain (text : String) : Prop := ∀ x ∈ text.toList, ¬ IsSign x

instance (text : String) : Decidable (Plain text) :=
  List.decidableBAll (fun x => ¬ IsSign x) text.toList

theorem toList_separated_cons (text : String) (texts : List String) (c : Connective)
    (cs : List Connective) : (separated (text :: texts) (c :: cs)).toList =
      (text.toList ++ [' ']) ++ c.sign :: ' ' :: (separated texts cs).toList := by
  simp [separated, Connective.toList_separator]

/-- The text before a connective is not all there is. -/
theorem separated_cons_not_plain (text : String) (texts : List String) (c : Connective)
    (cs : List Connective) : ¬ Plain (separated (text :: texts) (c :: cs)) := by
  intro h
  refine h c.sign ?_ c.isSign_sign
  rw [toList_separated_cons]
  simp

theorem Plain.append_space {text : String} (h : Plain text) :
    ∀ x ∈ text.toList ++ [' '], ¬ IsSign x := by
  intro x hx
  rcases List.mem_append.mp hx with hx | hx
  · exact h x hx
  · obtain rfl := List.mem_singleton.mp hx
    simp [IsSign]

/-- **Plain texts are read back** from between the connectives, and so are the connectives. -/
theorem separated_inj {texts texts' : List String} {cs cs' : List Connective}
    (hlen : texts.length = cs.length + 1) (hlen' : texts'.length = cs'.length + 1)
    (hplain : ∀ t ∈ texts, Plain t) (hplain' : ∀ t ∈ texts', Plain t)
    (h : separated texts cs = separated texts' cs') : texts = texts' ∧ cs = cs' := by
  induction cs generalizing texts texts' cs' with
  | nil =>
    obtain ⟨text, rfl⟩ := List.length_eq_one_iff.mp hlen
    obtain ⟨text', rest', rfl⟩ := List.exists_cons_of_length_eq_add_one hlen'
    cases cs' with
    | nil =>
      obtain rfl : rest' = [] := by simpa using hlen'
      exact ⟨congrArg (fun t => [t]) h, rfl⟩
    | cons c' ds' =>
      -- One side is a single plain text, the other holds a sign.
      refine absurd ?_ (separated_cons_not_plain text' rest' c' ds')
      rw [← h]
      exact hplain text List.mem_cons_self
  | cons c ds ih =>
    obtain ⟨text, rest, rfl⟩ := List.exists_cons_of_length_eq_add_one hlen
    obtain ⟨text', rest', rfl⟩ := List.exists_cons_of_length_eq_add_one hlen'
    cases cs' with
    | nil =>
      obtain rfl : rest' = [] := by simpa using hlen'
      refine absurd ?_ (separated_cons_not_plain text rest c ds)
      rw [h]
      exact hplain' text' List.mem_cons_self
    | cons c' ds' =>
      -- The first sign on either side ends the first text.
      rw [List.forall_mem_cons] at hplain hplain'
      have hl := congrArg String.toList h
      rw [toList_separated_cons, toList_separated_cons] at hl
      obtain ⟨htext, hsign, htail⟩ := Text.append_cons_inj hplain.1.append_space
        hplain'.1.append_space c.isSign_sign c'.isSign_sign hl
      obtain rfl := String.toList_inj.mp (List.append_cancel_right htext)
      obtain rfl := Connective.sign_injective hsign
      obtain ⟨rfl, rfl⟩ := ih (by simpa using hlen) (by simpa using hlen') hplain.2 hplain'.2
        (String.toList_inj.mp (List.cons.inj htail).2)
      exact ⟨rfl, rfl⟩

/-! ## Trees -/

/-- Joining adds the connective between the two texts and changes neither: the operator of a
connective puts no brackets around its right side. -/
theorem Filter.render_join (c : Connective) (left right : Filter) :
    (Filter.join c left right).render = left.render ++ c.separator ++ right.render := by
  cases c <;>
    simp only [Filter.render, Filter.join, Connective.operator, Operator.sign, Operator.wrap,
      Connective.separator, String.append_assoc] <;> rfl

namespace FilterTree

theorem length_leaves (tree : FilterTree) :
    tree.leaves.length = tree.connectives.length + 1 := by
  induction tree with
  | leaf filter => rfl
  | node c left right ihl ihr =>
    simp only [leaves, connectives, List.length_append, List.length_cons]
    omega

/-- The texts of the leaves, from left to right. -/
def texts (tree : FilterTree) : List String := tree.leaves.map Filter.render

theorem length_texts (tree : FilterTree) : tree.texts.length = tree.connectives.length + 1 := by
  rw [texts, List.length_map, length_leaves]

theorem render_eval (tree : FilterTree) :
    tree.eval.render = separated tree.texts tree.connectives := by
  induction tree with
  | leaf filter => rfl
  | node c left right ihl ihr =>
    have hnode := separated_append left.length_texts c right.texts right.connectives
    rw [eval, Filter.render_join, ihl, ihr, ← hnode]
    simp [texts, leaves, connectives]

/-- **The text of a tree is flat.** It shows the texts of the leaves as they are, in reading order
and with the connectives between them, so the shape of the tree does not matter; and where no leaf
holds the sign of a connective, the text tells the leaves' texts and the connectives. -/
theorem render_flat :
    (∀ left right : Filter, left &&& right = .join .and left right ∧
        left ||| right = .join .or left right) ∧
      (∀ tree : FilterTree, tree.eval.render = separated tree.texts tree.connectives) ∧
      (∀ s t : FilterTree, s.leaves = t.leaves → s.connectives = t.connectives →
        s.eval.render = t.eval.render) ∧
      ∀ s t : FilterTree, (∀ text ∈ s.texts, Plain text) → (∀ text ∈ t.texts, Plain text) →
        s.eval.render = t.eval.render →
        s.leaves.length = t.leaves.length ∧ s.texts = t.texts ∧ s.connectives = t.connectives := by
  refine ⟨fun left right => ⟨rfl, rfl⟩, render_eval, fun s t hleaves hconnectives => ?_,
    fun s t hs ht h => ?_⟩
  · rw [render_eval, render_eval, texts, texts, hleaves, hconnectives]
  · rw [render_eval, render_eval] at h
    obtain ⟨htexts, hconnectives⟩ := separated_inj s.length_texts t.length_texts hs ht h
    exact ⟨by rw [length_leaves, length_leaves, hconnectives], htexts, hconnectives⟩

/-- A pattern and a list, and beside them a comparison with nothing. -/
def leftGrouped : FilterTree :=
  .node .or
    (.node .and (.leaf (.startsWith (.name "name") (.text "zel") .insensitive))
      (.leaf (.containsAll (.name "tags") [.text "a b", .boolean true])))
    (.leaf (.isNull (.name "cover")))

/-- The same leaves, with the last two together. -/
def rightGrouped : FilterTree :=
  .node .and (.leaf (.startsWith (.name "name") (.text "zel") .insensitive))
    (.node .or (.leaf (.containsAll (.name "tags") [.text "a b", .boolean true]))
      (.leaf (.isNull (.name "cover"))))

theorem grouped_flat :
    leftGrouped.leaves = rightGrouped.leaves ∧ leftGrouped.connectives = rightGrouped.connectives ∧
      leftGrouped.eval.render = rightGrouped.eval.render ∧ leftGrouped.eval ≠ rightGrouped.eval ∧
      (∀ text ∈ leftGrouped.texts, Plain text) ∧ (∀ text ∈ rightGrouped.texts, Plain text) ∧
      leftGrouped.texts = rightGrouped.texts := by
  have hleaves : leftGrouped.leaves = rightGrouped.leaves := rfl
  have hconnectives : leftGrouped.connectives = rightGrouped.connectives := rfl
  have h := render_flat.2.2.1 leftGrouped rightGrouped hleaves hconnectives
  have hleft : ∀ text ∈ leftGrouped.texts, Plain text := by decide
  have hright : ∀ text ∈ rightGrouped.texts, Plain text := by decide
  exact ⟨hleaves, hconnectives, h, by decide, hleft, hright,
    (render_flat.2.2.2 leftGrouped rightGrouped hleft hright h).2.1⟩

end FilterTree

end Apicalypse

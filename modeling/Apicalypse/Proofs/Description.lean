import Apicalypse.Description
import Apicalypse.Proofs.Text.Quoted

/-!
# Reading descriptions

The text of a description tells the description, as long as its words hold none of the marks that
are put around words. A text in quotes may hold anything.

* `Legible`: the words of a description hold no marks.
* `parts_of_append`: the word in front ends at the first mark, and this mark tells the kind of
  description.
* `joined_append_inj`: the items of a list and the fields of a record are read one after the other.
* `Legible.readable`: a description is read from the front of a longer text, and where it ends.
* `Legible.render_inj`: different descriptions have different texts.
* `Faithful`: types whose values are told by their descriptions.
-/

namespace Apicalypse

namespace Description

/-! ## Legible descriptions -/

/-- The text of a description puts this character around words. -/
def isMark : Char → Bool
  | '"' | '[' | ']' | '(' | ')' | ',' | ':' | ' ' | '\x7b' | '\x7d' => true
  | _ => false

/-- A character that stands around words. -/
def IsMark (c : Char) : Prop := isMark c = true

instance (c : Char) : Decidable (IsMark c) := inferInstanceAs (Decidable (_ = true))

theorem IsMark.not_isDigit {c : Char} (h : IsMark c) : c.isDigit = false := by
  unfold IsMark isMark at h
  split at h
  all_goals first | rfl | cases h

/-- There is something, and no mark in it. -/
def IsWord (text : String) : Prop := text ≠ "" ∧ ∀ c ∈ text.toList, ¬ IsMark c

instance (text : String) : Decidable (IsWord text) :=
  haveI := List.decidableBAll (fun c => ¬ IsMark c) text.toList
  inferInstanceAs (Decidable (_ ∧ ∀ c ∈ text.toList, ¬ IsMark c))

/-- The words and names of a description hold no marks. -/
inductive Legible : Description → Prop where
  | word {text : String} (h : IsWord text) : Legible (word text)
  | quoted (text : String) : Legible (quoted text)
  | list {items : List Description} (h : ∀ item ∈ items, Legible item) : Legible (list items)
  | apply {name : String} {argument : Description} (hname : IsWord name) (h : Legible argument) :
    Legible (apply name argument)
  | record {name : String} {fields : List (String × Description)} (hname : IsWord name)
    (hnames : ∀ field ∈ fields, IsWord field.1) (h : ∀ field ∈ fields, Legible field.2) :
    Legible (record name fields)

/-- What can follow a description inside another one. -/
inductive Closes : List Char → Prop where
  | comma (rest : List Char) : Closes (',' :: rest)
  | bracket (rest : List Char) : Closes (']' :: rest)
  | parenthesis (rest : List Char) : Closes (')' :: rest)
  | brace (rest : List Char) : Closes (' ' :: '\x7d' :: rest)

/-! ## The word in front -/

/-- The word in front of a description. -/
def lead : Description → List Char
  | word text => text.toList
  | apply name _ | record name _ => name.toList
  | quoted _ | list _ => []

/-- The text of a description behind the word in front. -/
def body : Description → List Char
  | word _ => []
  | quoted text => (Text.quote text).toList
  | list items => '[' :: ((renderItems items).toList ++ [']'])
  | apply _ argument => '(' :: (argument.render.toList ++ [')'])
  | record _ fields => ' ' :: '\x7b' :: ' ' :: ((renderFields fields).toList ++ [' ', '\x7d'])

theorem toList_render (d : Description) : d.render.toList = d.lead ++ d.body := by
  cases d <;> simp [render, lead, body]

/-- The kinds of descriptions. -/
inductive Shape where
  | word
  | quoted
  | list
  | apply
  | record

/-- The kind of a description. -/
def shape : Description → Shape
  | word _ => .word
  | quoted _ => .quoted
  | list _ => .list
  | apply .. => .apply
  | record .. => .record

/-- The kind of the description that goes on in this way behind the word in front. -/
def shapeOf : List Char → Shape
  | '"' :: _ => .quoted
  | '[' :: _ => .list
  | '(' :: _ => .apply
  | ' ' :: '\x7b' :: _ => .record
  | _ => .word

theorem shapeOf_body (d : Description) {s : List Char} (hs : Closes s) :
    shapeOf (d.body ++ s) = d.shape := by
  cases d with
  | word text => cases hs <;> rfl
  | quoted text => simp [body, Text.quote, shapeOf, shape]
  | list items | apply name argument | record name fields => rfl

theorem exists_mark_of_body (d : Description) {s : List Char} (hs : Closes s) :
    ∃ mark rest, d.body ++ s = mark :: rest ∧ IsMark mark := by
  cases d with
  | word text => cases hs <;> exact ⟨_, _, rfl, by decide⟩
  | quoted text => exact ⟨'"', _, by simp [body, Text.quote]; rfl, by decide⟩
  | list items | apply name argument | record name fields => exact ⟨_, _, rfl, by decide⟩

theorem Legible.not_isMark {d : Description} (hd : d.Legible) : ∀ c ∈ d.lead, ¬ IsMark c := by
  cases hd with
  | word h => exact h.2
  | quoted text | list h => exact fun c hc => absurd hc List.not_mem_nil
  | apply hname h => exact hname.2
  | record hname hnames h => exact hname.2

/-- The word in front ends at the first mark, and what comes there tells the kind of description. -/
theorem parts_of_append {d e : Description} (hd : d.Legible) (he : e.Legible) {s t : List Char}
    (hs : Closes s) (ht : Closes t) (h : d.render.toList ++ s = e.render.toList ++ t) :
    d.shape = e.shape ∧ d.lead = e.lead ∧ d.body ++ s = e.body ++ t := by
  obtain ⟨mark, rest, hmark, hismark⟩ := d.exists_mark_of_body hs
  obtain ⟨mark', rest', hmark', hismark'⟩ := e.exists_mark_of_body ht
  rw [toList_render, toList_render, List.append_assoc, List.append_assoc, hmark, hmark'] at h
  -- The words hold no marks, so both end where the first mark is.
  obtain ⟨hlead, rfl, rfl⟩ := Text.append_cons_inj hd.not_isMark he.not_isMark hismark hismark' h
  have hbody : d.body ++ s = e.body ++ t := hmark.trans hmark'.symm
  refine ⟨?_, hlead, hbody⟩
  rw [← d.shapeOf_body hs, hbody, e.shapeOf_body ht]

/-- No description begins with a character that closes one. -/
theorem Legible.append_ne_cons {d : Description} (hd : d.Legible) {c : Char}
    (hc : c = ']' ∨ c = ' ') (s t : List Char) : d.render.toList ++ s ≠ c :: t := by
  intro h
  have hword {text : String} (hw : IsWord text) {rest : List Char}
      (heq : text.toList ++ rest = c :: t) : False := by
    cases hl : text.toList with
    | nil => exact hw.1 (String.toList_eq_nil_iff.mp hl)
    | cons x xs =>
      rw [hl] at heq
      obtain ⟨rfl, -⟩ := List.cons.inj heq
      refine hw.2 x (hl ▸ List.mem_cons_self) ?_
      rcases hc with rfl | rfl <;> decide
  rw [toList_render, List.append_assoc] at h
  cases hd with
  | word hw => exact hword hw h
  | quoted text => rcases hc with rfl | rfl <;> simp [lead, body, Text.quote] at h
  | list hitems => rcases hc with rfl | rfl <;> simp [lead, body] at h
  | apply hname harg => exact hword hname h
  | record hname hnames hfields => exact hword hname h

/-! ## Lists -/

theorem renderItems_eq_joined (items : List Description) :
    renderItems items = Text.joined ", " (items.map render) := by
  match items with
  | [] => simp [renderItems, Text.joined]
  | [item] => simp [renderItems, Text.joined]
  | item :: next :: rest =>
    have ih := renderItems_eq_joined (next :: rest)
    rw [renderItems, ih]
    simp [Text.joined, String.intercalate_cons_cons]

theorem renderFields_eq_joined (fields : List (String × Description)) :
    renderFields fields = Text.joined ", " (fields.map renderField) := by
  match fields with
  | [] => simp [renderFields, Text.joined]
  | [field] => simp [renderFields, Text.joined]
  | field :: next :: rest =>
    have ih := renderFields_eq_joined (next :: rest)
    rw [renderFields, ih]
    simp [Text.joined, String.intercalate_cons_cons]

section Joined

variable {α : Type} {write : α → String} {close : List Char}

/-- The texts of the later elements of a list, each with its comma. -/
def following (write : α → String) (xs : List α) : List Char :=
  xs.flatMap fun x => ',' :: ' ' :: (write x).toList

theorem toList_joined_cons (x : α) (xs : List α) :
    (Text.joined ", " ((x :: xs).map write)).toList =
      (write x).toList ++ following write xs := by
  induction xs generalizing x with
  | nil => simp [Text.joined, following]
  | cons y ys ih =>
    have hcons : Text.joined ", " ((x :: y :: ys).map write) =
        write x ++ ", " ++ Text.joined ", " ((y :: ys).map write) := by
      simp [Text.joined, String.intercalate_cons_cons]
    rw [hcons, String.toList_append, ih]
    simp [following]

theorem closes_following (hclose : ∀ s, Closes (close ++ s)) (xs : List α) (s : List Char) :
    Closes (following write xs ++ (close ++ s)) := by
  cases xs with
  | nil => exact hclose s
  | cons x xs => exact .comma _

theorem following_append_inj {xs ys : List α}
    (hread : ∀ x ∈ xs, ∀ y ∈ ys, ∀ {s t : List Char}, Closes s → Closes t →
      (write x).toList ++ s = (write y).toList ++ t → x = y ∧ s = t)
    (hclose : ∀ s, Closes (close ++ s)) (hcomma : ∀ s t, close ++ s ≠ ',' :: t) {s t : List Char}
    (h : following write xs ++ (close ++ s) = following write ys ++ (close ++ t)) :
    xs = ys ∧ s = t := by
  induction xs generalizing ys with
  | nil =>
    cases ys with
    | nil => exact ⟨rfl, List.append_cancel_left h⟩
    | cons y ys => exact absurd h (hcomma s _)
  | cons x xs ih =>
    cases ys with
    | nil => exact absurd h.symm (hcomma t _)
    | cons y ys =>
      simp only [following, List.flatMap_cons, List.cons_append, List.append_assoc] at h
      obtain ⟨rfl, hrest⟩ := hread x List.mem_cons_self y List.mem_cons_self
        (closes_following hclose xs s) (closes_following hclose ys t)
        (List.cons.inj (List.cons.inj h).2).2
      obtain ⟨rfl, rfl⟩ := ih (fun a ha b hb => hread a (List.mem_cons_of_mem _ ha) b
        (List.mem_cons_of_mem _ hb)) hrest
      exact ⟨rfl, rfl⟩

/-- **Texts between commas are read one after the other**, when each of them can be read from the
front of what closes it, and none begins like the end of the list. -/
theorem joined_append_inj (close : List Char) {xs ys : List α}
    (hread : ∀ x ∈ xs, ∀ y ∈ ys, ∀ {s t : List Char}, Closes s → Closes t →
      (write x).toList ++ s = (write y).toList ++ t → x = y ∧ s = t)
    (hxs : ∀ x ∈ xs, ∀ s t : List Char, (write x).toList ++ s ≠ close ++ t)
    (hys : ∀ y ∈ ys, ∀ s t : List Char, (write y).toList ++ s ≠ close ++ t)
    (hclose : ∀ s, Closes (close ++ s)) (hcomma : ∀ s t, close ++ s ≠ ',' :: t) {s t : List Char}
    (h : (Text.joined ", " (xs.map write)).toList ++ (close ++ s) =
      (Text.joined ", " (ys.map write)).toList ++ (close ++ t)) : xs = ys ∧ s = t := by
  have hempty : (Text.joined ", " (([] : List α).map write)).toList = [] := by
    simp [Text.joined]
  cases xs with
  | nil =>
    cases ys with
    | nil =>
      rw [hempty] at h
      exact ⟨rfl, List.append_cancel_left h⟩
    | cons y ys =>
      rw [hempty, toList_joined_cons, List.append_assoc] at h
      exact absurd h.symm (hys y List.mem_cons_self _ _)
  | cons x xs =>
    cases ys with
    | nil =>
      rw [hempty, toList_joined_cons, List.append_assoc] at h
      exact absurd h (hxs x List.mem_cons_self _ _)
    | cons y ys =>
      rw [toList_joined_cons, toList_joined_cons, List.append_assoc, List.append_assoc] at h
      obtain ⟨rfl, hrest⟩ := hread x List.mem_cons_self y List.mem_cons_self
        (closes_following hclose xs s) (closes_following hclose ys t) h
      obtain ⟨rfl, rfl⟩ := following_append_inj (fun a ha b hb =>
        hread a (List.mem_cons_of_mem _ ha) b (List.mem_cons_of_mem _ hb)) hclose hcomma hrest
      exact ⟨rfl, rfl⟩

end Joined

/-! ## Reading -/

/-- The description is known from the front of a text that closes it. -/
def Readable (d : Description) : Prop :=
  ∀ {e : Description} {s t : List Char}, e.Legible → Closes s → Closes t →
    d.render.toList ++ s = e.render.toList ++ t → d = e ∧ s = t

theorem readable_word {text : String} (h : IsWord text) : (word text).Readable := by
  intro e s t he hs ht heq
  obtain ⟨hshape, hlead, hbody⟩ := parts_of_append (.word h) he hs ht heq
  cases e <;> cases hshape
  exact ⟨congrArg word (String.toList_inj.mp hlead), hbody⟩

theorem readable_quoted (text : String) : (quoted text).Readable := by
  intro e s t he hs ht heq
  obtain ⟨hshape, -, hbody⟩ := parts_of_append (.quoted text) he hs ht heq
  cases e <;> cases hshape
  obtain ⟨rfl, rfl⟩ := Text.quote_append_inj hbody
  exact ⟨rfl, rfl⟩

theorem readable_list {items : List Description} (hitems : ∀ item ∈ items, item.Legible)
    (ih : ∀ item ∈ items, item.Readable) : (list items).Readable := by
  intro e s t he hs ht heq
  obtain ⟨hshape, -, hbody⟩ := parts_of_append (.list hitems) he hs ht heq
  cases he <;> cases hshape
  rename_i items' hitems'
  simp only [body, renderItems_eq_joined, List.cons_append, List.append_assoc] at hbody
  obtain ⟨rfl, rfl⟩ := joined_append_inj [']']
    (fun x hx y hy => ih x hx (hitems' y hy))
    (fun x hx s t => (hitems x hx).append_ne_cons (.inl rfl) s t)
    (fun y hy s t => (hitems' y hy).append_ne_cons (.inl rfl) s t)
    (fun s => .bracket s) (fun s t => by simp) (by simpa using hbody)
  exact ⟨rfl, rfl⟩

theorem readable_apply {name : String} {argument : Description} (hname : IsWord name)
    (hargument : argument.Legible) (ih : argument.Readable) : (apply name argument).Readable := by
  intro e s t he hs ht heq
  obtain ⟨hshape, hlead, hbody⟩ := parts_of_append (.apply hname hargument) he hs ht heq
  cases he <;> cases hshape
  rename_i name' argument' hname' hargument'
  obtain rfl : name = name' := String.toList_inj.mp hlead
  have hback : argument.render.toList ++ ')' :: s = argument'.render.toList ++ ')' :: t := by
    simpa [body] using hbody
  obtain ⟨rfl, hrest⟩ := ih hargument' (.parenthesis s) (.parenthesis t) hback
  exact ⟨rfl, (List.cons.inj hrest).2⟩

theorem toList_renderField (field : String × Description) :
    (renderField field).toList = field.1.toList ++ ':' :: ' ' :: field.2.render.toList := by
  obtain ⟨name, value⟩ := field
  simp [renderField]

/-- A field ends its name with a colon. -/
theorem readable_field {field field' : String × Description} (hname : IsWord field.1)
    (hname' : IsWord field'.1) (ih : field.2.Readable) (h' : field'.2.Legible) {s t : List Char}
    (hs : Closes s) (ht : Closes t)
    (h : (renderField field).toList ++ s = (renderField field').toList ++ t) :
    field = field' ∧ s = t := by
  have hcolon {text : String} (hword : IsWord text) : ∀ c ∈ text.toList, ¬ c = ':' :=
    fun c hc e => hword.2 c hc (e ▸ by decide)
  rw [toList_renderField, toList_renderField, List.append_assoc, List.append_assoc] at h
  obtain ⟨hfront, -, hback⟩ := Text.append_cons_inj (hcolon hname) (hcolon hname') rfl rfl h
  obtain ⟨hvalue, hrest⟩ := ih h' hs ht (List.cons.inj hback).2
  exact ⟨Prod.ext (String.toList_inj.mp hfront) hvalue, hrest⟩

theorem renderField_append_ne (field : String × Description) (hname : IsWord field.1)
    (s t : List Char) : (renderField field).toList ++ s ≠ [' ', '\x7d'] ++ t := by
  have hne := (Legible.word hname).append_ne_cons (.inr rfl)
    (':' :: ' ' :: (field.2.render.toList ++ s)) ('\x7d' :: t)
  simpa [toList_renderField, render] using hne

theorem readable_record {name : String} {fields : List (String × Description)}
    (hname : IsWord name) (hnames : ∀ field ∈ fields, IsWord field.1)
    (hfields : ∀ field ∈ fields, field.2.Legible) (ih : ∀ field ∈ fields, field.2.Readable) :
    (record name fields).Readable := by
  intro e s t he hs ht heq
  obtain ⟨hshape, hlead, hbody⟩ := parts_of_append (.record hname hnames hfields) he hs ht heq
  cases he <;> cases hshape
  rename_i name' fields' hname' hnames' hfields'
  obtain rfl : name = name' := String.toList_inj.mp hlead
  simp only [body, renderFields_eq_joined, List.cons_append, List.append_assoc] at hbody
  obtain ⟨rfl, rfl⟩ := joined_append_inj [' ', '\x7d']
    (fun x hx y hy => readable_field (hnames x hx) (hnames' y hy) (ih x hx) (hfields' y hy))
    (fun x hx => renderField_append_ne x (hnames x hx))
    (fun y hy => renderField_append_ne y (hnames' y hy))
    (fun s => .brace s) (fun s t => by simp) (by simpa using hbody)
  exact ⟨rfl, rfl⟩

/-- **A description is read from the front of a text**, and it is known where it ends. -/
theorem Legible.readable {d : Description} (hd : d.Legible) : d.Readable := by
  -- The other description and what follows both are arbitrary in the induction hypothesis: inside a
  -- list or a record, an item is followed by the rest of it.
  induction hd with
  | word h => exact readable_word h
  | quoted text => exact readable_quoted text
  | list hitems ih => exact readable_list hitems ih
  | apply hname hargument ih => exact readable_apply hname hargument ih
  | record hname hnames hfields ih => exact readable_record hname hnames hfields ih

/-- Different descriptions have different texts. -/
theorem Legible.render_inj {d e : Description} (hd : d.Legible) (he : e.Legible)
    (h : d.render = e.render) : d = e := by
  have hclosed : d.render.toList ++ [','] = e.render.toList ++ [','] := by rw [h]
  exact (hd.readable he (.comma []) (.comma []) hclosed).1

/-! ## Records and optional values -/

theorem legible_record (name : String) (names : List String) (values : List Description)
    (hname : IsWord name) (hnames : ∀ n ∈ names, IsWord n) (hvalues : ∀ v ∈ values, v.Legible) :
    (record name (names.zip values)).Legible :=
  .record hname (fun field hfield => hnames field.1 (List.of_mem_zip hfield).1)
    (fun field hfield => hvalues field.2 (List.of_mem_zip hfield).2)

theorem legible_option {α : Type} {describe : α → Description} (h : ∀ a, (describe a).Legible)
    (value : Option α) : (option describe value).Legible := by
  cases value with
  | none => exact .word (by decide)
  | some a => exact .apply (by decide) (h a)

theorem option_injective {α : Type} {describe : α → Description}
    (h : Function.Injective describe) : Function.Injective (option describe) := by
  intro a b hab
  cases a <;> cases b <;> simp_all [option, h.eq_iff]

end Description

/-- A type whose values are told by their descriptions. -/
class Faithful (α : Type) [Describable α] : Prop where
  legible (a : α) : (describe a).Legible
  injective : Function.Injective (describe : α → Description)

/-- Values that are read back from their descriptions are told by them. -/
theorem injective_of_read {α : Type} [Describable α] {read : Description → Option α}
    (h : ∀ a, read (describe a) = some a) : Function.Injective (describe : α → Description) := by
  intro a b hab
  exact Option.some.inj ((h a).symm.trans ((congrArg read hab).trans (h b)))

/-- Values are shown by the same text when they are the same. -/
theorem Faithful.render_eq_iff {α : Type} [Describable α] [Faithful α] {a b : α} :
    (describe a).render = (describe b).render ↔ a = b := by
  constructor
  · intro h
    exact injective ((legible a).render_inj (legible b) h)
  · rintro rfl
    rfl

end Apicalypse

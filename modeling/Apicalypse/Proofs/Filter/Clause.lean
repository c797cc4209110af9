import Apicalypse.Filter
import Apicalypse.Proofs.Text.Decimal
import Apicalypse.Proofs.Text.Separated

/-!
# What a clause tells

A clause is its field, sign and value one after the other, and nothing in it is escaped. Still the
parts are known from the text: the field where it holds no space, and a list of integers in any
case.

* `Operator.wrap_injective`, `Operator.decorate_injective`: brackets and wildcards can be taken off.
* `ofText_render_inj`: the cut at the first space, for fields without one.
* `ofText_render_inj_right`: the cut at the last space, for values without one.
* `MachineInteger`, `joinComparands_integers_inj`: a list of integers is known from its text.
* `clause_determines`: both cuts, for one value and for lists.
-/

namespace Apicalypse

/-! ## Operators -/

namespace Operator

theorem wrap_injective (operator : Operator) : Function.Injective operator.wrap := by
  intro v w h
  cases operator <;> simpa [wrap] using h

theorem decorate_injective (operator : Operator) : Function.Injective operator.decorate := by
  intro v w h
  cases operator <;> simpa [decorate] using h

/-- Neither brackets nor wildcards are spaces. -/
theorem not_mem_wrap_decorate (operator : Operator) {text : String} (h : ' ' ∉ text.toList) :
    ' ' ∉ (operator.wrap (operator.decorate text)).toList := by
  cases operator <;> simp [wrap, decorate, h]

end Operator

/-! ## Lists of integers -/

/-- An integer of one of the twelve types. -/
structure MachineInteger where
  type : IntegerType
  value : Int
  holds : type.Holds value

namespace MachineInteger

/-- The integer as a value to compare with. -/
def comparand (n : MachineInteger) : Comparand := .integer n.type n.value n.holds

end MachineInteger

theorem render_integers (ns : List MachineInteger) :
    (ns.map MachineInteger.comparand).map Comparand.render =
      (ns.map MachineInteger.value).map Text.decimal := by
  simp [MachineInteger.comparand, Comparand.render]

/-- The types of the integers do not show, but the integers do, in their order. -/
theorem joinComparands_integers_inj {xs ys : List MachineInteger}
    (h : joinComparands (xs.map MachineInteger.comparand) =
      joinComparands (ys.map MachineInteger.comparand)) :
    xs.map MachineInteger.value = ys.map MachineInteger.value := by
  have hitem (ns : List MachineInteger) :
      ∀ t ∈ (ns.map MachineInteger.value).map Text.decimal, ',' ∉ t.toList ∧ t ≠ "" := by
    intro t ht
    obtain ⟨n, -, rfl⟩ := List.mem_map.mp ht
    exact ⟨Text.not_mem_decimal (by decide) (by decide) n, Text.decimal_ne_empty n⟩
  rw [joinComparands, joinComparands, render_integers, render_integers] at h
  have htexts := Text.joined_inj_of_ne_empty rfl (hitem xs) (hitem ys) h
  exact (List.map_inj_right fun _ _ => Text.decimal_injective.eq_iff.mp).mp htexts

theorem not_mem_joinComparands_integers (ns : List MachineInteger) :
    ' ' ∉ (joinComparands (ns.map MachineInteger.comparand)).toList := by
  rw [joinComparands, render_integers]
  refine Text.not_mem_joined (by decide) fun t ht => ?_
  obtain ⟨n, -, rfl⟩ := List.mem_map.mp ht
  exact Text.not_mem_decimal (by decide) (by decide) n

/-! ## Clauses -/

namespace Filter

theorem toList_render_ofText (path : FieldPath) (operator : Operator) (text : String) :
    (ofText path operator text).render.toList = path.render.toList ++ ' ' ::
      (operator.sign.toList ++ ' ' :: (operator.wrap (operator.decorate text)).toList) := by
  simp [render, ofText]

theorem wrap_decorate_inj {operator : Operator} {v w : String}
    (h : (operator.wrap (operator.decorate v)).toList =
      (operator.wrap (operator.decorate w)).toList) : v = w :=
  operator.decorate_injective (operator.wrap_injective (String.toList_inj.mp h))

/-- A field without a space ends at the first one. The text may hold what it likes. -/
theorem ofText_render_inj {f g : FieldPath} {operator : Operator} {v w : String}
    (hf : ' ' ∉ f.render.toList) (hg : ' ' ∉ g.render.toList)
    (h : (ofText f operator v).render = (ofText g operator w).render) :
    f.render = g.render ∧ v = w := by
  have hl := congrArg String.toList h
  rw [toList_render_ofText, toList_render_ofText] at hl
  obtain ⟨hfield, -, hrest⟩ := Text.append_cons_inj (p := (· = ' ')) (fun x hx e => hf (e ▸ hx))
    (fun x hx e => hg (e ▸ hx)) rfl rfl hl
  have hvalue := (List.cons.inj (List.append_cancel_left hrest)).2
  exact ⟨String.toList_inj.mp hfield, wrap_decorate_inj hvalue⟩

/-- A text without a space begins after the last one. The field may hold what it likes. -/
theorem ofText_render_inj_right {f g : FieldPath} {operator : Operator} {v w : String}
    (hv : ' ' ∉ v.toList) (hw : ' ' ∉ w.toList)
    (h : (ofText f operator v).render = (ofText g operator w).render) :
    f.render = g.render ∧ v = w := by
  have hl := congrArg String.toList h
  rw [toList_render_ofText, toList_render_ofText] at hl
  simp only [← List.cons_append, ← List.append_assoc] at hl
  obtain ⟨hfront, hvalue⟩ := Text.append_cons_inj_right (operator.not_mem_wrap_decorate hv)
    (operator.not_mem_wrap_decorate hw) hl
  have hfield := List.append_cancel_right hfront
  exact ⟨String.toList_inj.mp hfield, wrap_decorate_inj hvalue⟩

/-- **A clause tells its parts.** Under one operator, and when the rendered fields hold no space,
clauses with the same text have the same field and the same comparand text, which may be anything.
When they compare with lists of integers, of whatever types, they have the same integers in the same
order, and then nothing is asked of the fields. -/
theorem clause_determines (operator : Operator) (f g : FieldPath) :
    (∀ v w : Comparand, ' ' ∉ f.render.toList → ' ' ∉ g.render.toList →
        (compare f operator v).render = (compare g operator w).render →
        f.render = g.render ∧ v.render = w.render) ∧
      ∀ xs ys : List MachineInteger,
        (compareWithAll f operator (xs.map MachineInteger.comparand)).render =
          (compareWithAll g operator (ys.map MachineInteger.comparand)).render →
        f.render = g.render ∧ xs.map MachineInteger.value = ys.map MachineInteger.value := by
  refine ⟨fun v w hf hg h => ofText_render_inj hf hg h, fun xs ys h => ?_⟩
  obtain ⟨hfield, htext⟩ := ofText_render_inj_right (not_mem_joinComparands_integers xs)
    (not_mem_joinComparands_integers ys) h
  exact ⟨hfield, joinComparands_integers_inj htext⟩

/-- With a space in a field, a clause can be cut in another place. -/
example : (compare (.name "a = b") .equal (.text "c")).render =
    (compare (.name "a") .equal (.text "b = c")).render := by decide

/-- A comparand that looks like the rest of a clause. -/
def entangled : String := "* & b ~ *x*] = (1,2"

/-- Integers of several widths. -/
def widths : List MachineInteger :=
  [⟨⟨true, .w8⟩, -128, by decide⟩, ⟨⟨false, .w128⟩, 1000000000000000000000000000000, by decide⟩,
    ⟨⟨true, .w16⟩, 0, by decide⟩]

/-- The same integers in other types. -/
def otherWidths : List MachineInteger :=
  [⟨⟨true, .w64⟩, -128, by decide⟩, ⟨⟨true, .w128⟩, 1000000000000000000000000000000, by decide⟩,
    ⟨⟨false, .address⟩, 0, by decide⟩]

theorem entangled_clause_determines :
    (∃ f g : FieldPath, f ≠ g ∧ ' ' ∉ f.render.toList ∧ ' ' ∉ g.render.toList ∧
        (compare f (.contains .insensitive) (.text entangled)).render =
          (compare g (.contains .insensitive) (.present (.text entangled))).render ∧
        f.render = g.render) ∧
      (compareWithAll (.name "a = (1") .containsNone (widths.map MachineInteger.comparand)).render =
        (compareWithAll (.name "a = (1") .containsNone
          (otherWidths.map MachineInteger.comparand)).render ∧
      widths.map MachineInteger.value = otherWidths.map MachineInteger.value := by
  have hf : ' ' ∉ (FieldPath.nested "a" (.name "b")).render.toList := by decide
  have hg : ' ' ∉ (FieldPath.name "a.b").render.toList := by decide
  have h : (compare (.nested "a" (.name "b")) (.contains .insensitive) (.text entangled)).render =
      (compare (.name "a.b") (.contains .insensitive) (.present (.text entangled))).render := by
    decide
  have hlists : (compareWithAll (.name "a = (1") .containsNone
        (widths.map MachineInteger.comparand)).render =
      (compareWithAll (.name "a = (1") .containsNone
        (otherWidths.map MachineInteger.comparand)).render := by
    decide
  have hfields := ((clause_determines _ _ _).1 _ _ hf hg h).1
  exact ⟨⟨_, _, by decide, hf, hg, h, hfields⟩, hlists, ((clause_determines _ _ _).2 _ _ hlists).2⟩

end Filter

end Apicalypse

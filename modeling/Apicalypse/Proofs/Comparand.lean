import Apicalypse.Comparand
import Apicalypse.Proofs.Text.Decimal

/-!
# Integers as comparands

An integer has one text, whichever of the twelve types it has and however it is wrapped.

* `Wraps`: a comparand under any number of references and options.
* `Wraps.render_eq`: they do not show in the text.
* `render_integer_numeral`: the text of an integer is its canonical numeral, from which the integer
  is read back, and none is the text of a missing value.
-/

namespace Apicalypse

namespace Comparand

/-- The second comparand is the first one under references and options, in any order and number. -/
inductive Wraps (value : Comparand) : Comparand → Prop
  | bare : Wraps value value
  | present {c : Comparand} (h : Wraps value c) : Wraps value (.present c)
  | reference {c : Comparand} (h : Wraps value c) : Wraps value (.reference c)

theorem Wraps.render_eq {value c : Comparand} (h : value.Wraps c) : c.render = value.render := by
  induction h with
  | bare => rfl
  | present _ ih => rw [render, ih]
  | reference _ ih => rw [render, ih]

/-- The text of a wrapped integer is its numeral. -/
theorem Wraps.render_integer {type : IntegerType} {n : Int} {holds : type.Holds n} {c : Comparand}
    (h : (integer type n holds).Wraps c) : c.render = Text.decimal n := by
  rw [h.render_eq, render]

/-- The text of a missing value is no numeral. -/
theorem decimal_ne_null (n : Int) : Text.decimal n ≠ "null" := by
  intro h
  have hletter := Text.not_mem_decimal (c := 'n') (by decide) (by decide) n
  rw [h] at hletter
  exact hletter (by decide)

/-- **Integers as comparands.** Under any references and options, the text of an integer is its
canonical numeral and nothing else, and the integer is read back from it. So two integers have the
same text when they are the same number, whatever their types are. A missing value is `null`, which
no integer is. -/
theorem render_integer_numeral :
    (∀ (type : IntegerType) (n : Int) (holds : type.Holds n) (c : Comparand),
        (integer type n holds).Wraps c →
        (∀ text, c.render = text ↔ Text.IsNumeralOf n text) ∧ c.render.toInt? = some n) ∧
      (∀ (type type' : IntegerType) (n m : Int) (holds : type.Holds n) (holds' : type'.Holds m)
        (c d : Comparand), (integer type n holds).Wraps c → (integer type' m holds').Wraps d →
        (c.render = d.render ↔ n = m)) ∧
      (∀ c, absent.Wraps c → c.render = "null") ∧
      ∀ (type : IntegerType) (n : Int) (holds : type.Holds n) (c d : Comparand),
        (integer type n holds).Wraps c → absent.Wraps d → c.render ≠ d.render := by
  refine ⟨fun type n holds c h => ⟨fun text => ?_, ?_⟩,
    fun type type' n m holds holds' c d h h' => ?_, fun c h => h.render_eq,
    fun type n holds c d h h' => ?_⟩
  · rw [h.render_integer, Text.decimal_eq_iff]
  · rw [h.render_integer, Text.decimal_eq_repr, Int.toInt?_repr]
  · rw [h.render_integer, h'.render_integer]
    exact Text.decimal_injective.eq_iff
  · rw [h.render_integer, h'.render_eq]
    exact decimal_ne_null n

/-- The least integer of all types, under an option and a reference. -/
def leastWrapped : Comparand :=
  .present (.reference (.integer ⟨true, .w128⟩ (-170141183460469231731687303715884105728)
    (by decide)))

/-- The greatest integer of all types, under references. -/
def greatestWrapped : Comparand :=
  .reference (.reference (.integer ⟨false, .w128⟩ 340282366920938463463374607431768211455
    (by decide)))

theorem leastWrapped_render_numeral :
    leastWrapped.render = "-170141183460469231731687303715884105728" ∧
      leastWrapped.render.toInt? = some (-170141183460469231731687303715884105728) ∧
      leastWrapped.render ≠ greatestWrapped.render ∧
      greatestWrapped.render ≠ (present (reference absent)).render := by
  obtain ⟨hnumeral, hsame, -, hnull⟩ := render_integer_numeral
  have hleast := hnumeral _ _ _ leastWrapped (.present (.reference .bare))
  have hdistinct := hsame _ _ _ _ _ _ leastWrapped greatestWrapped
    (.present (.reference .bare)) (.reference (.reference .bare))
  refine ⟨(hleast.1 _).mpr ⟨_, rfl, by decide, List.all_eq_true.mp rfl, by decide, by decide⟩,
    hleast.2, ?_,
    hnull _ _ _ _ _ (.reference (.reference .bare)) (.present (.reference .bare))⟩
  rw [ne_eq, hdistinct]
  decide

end Comparand

end Apicalypse

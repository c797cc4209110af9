import Apicalypse.Proofs.Description
import Apicalypse.Proofs.Query.Decoding
import Apicalypse.Query.Description

/-!
# What the description of a query tells

The description of a query shows all its parts, and it can be read whatever the texts in them are.
So queries with the same description are the same; unlike the text of a query, it also tells filters
apart whose clauses are the same.

* `Operator.ofDescription?`: the operator of a description.
* `Faithful` instances: operators, filters, sorts and queries are told by their descriptions.
* `Query.beq_iff`: queries are equal when all their parts are.
* `Query.render_describe_eq_iff`: queries with the same description are equal, and only these.
-/

namespace Apicalypse

/-! ## Operators -/

/-- The case that a description shows. -/
def Case.ofDescription? : Description → Option Case
  | .word "Sensitive" => some .sensitive
  | .word "Insensitive" => some .insensitive
  | _ => none

/-- The operator that a description shows. -/
def Operator.ofDescription? : Description → Option Operator
  | .word "Equal" => some .equal
  | .word "NotEqual" => some .notEqual
  | .word "GreaterThan" => some .greaterThan
  | .word "GreaterThanOrEqual" => some .greaterThanOrEqual
  | .word "LessThan" => some .lessThan
  | .word "LessThanOrEqual" => some .lessThanOrEqual
  | .apply "StartsWith" case => startsWith <$> Case.ofDescription? case
  | .apply "EndsWith" case => endsWith <$> Case.ofDescription? case
  | .apply "Contains" case => contains <$> Case.ofDescription? case
  | .word "ContainsAll" => some .containsAll
  | .word "ContainsExclusively" => some .containsExclusively
  | .word "ContainsAtLeastOne" => some .containsAtLeastOne
  | .word "ContainsNone" => some .containsNone
  | .word "And" => some .and
  | .word "Or" => some .or
  | _ => none

theorem Operator.ofDescription?_describe (operator : Operator) :
    ofDescription? (describe operator) = some operator := by
  cases operator with
  | startsWith case | endsWith case | contains case => cases case <;> rfl
  | _ => rfl

instance : Faithful Case where
  legible case := by cases case <;> exact .word (by decide)
  injective := injective_of_read fun case => show Case.ofDescription? _ = _ by cases case <;> rfl

instance : Faithful Operator where
  legible operator := by
    cases operator with
    | startsWith case | endsWith case | contains case =>
      exact .apply (by decide) (Faithful.legible case)
    | _ => exact .word (by decide)
  injective := injective_of_read Operator.ofDescription?_describe

/-! ## Filters and sorts -/

instance : Faithful Filter where
  legible filter := by
    refine Description.legible_record "Filter" ["field", "operator", "value"]
      [.quoted filter.field, describe filter.operator, .quoted filter.value]
      (by decide) (by decide) ?_
    simp [Faithful.legible, Description.Legible.quoted]
  injective f g h := by
    obtain ⟨-, hfields⟩ := Description.record.inj h
    simp only [List.cons.injEq, Prod.mk.injEq, true_and, and_true, Description.quoted.injEq,
      Faithful.injective.eq_iff] at hfields
    obtain ⟨hfield, hoperator, hvalue⟩ := hfields
    cases f
    cases g
    simp_all

instance : Faithful SortOrder where
  legible order := by cases order <;> exact .word (by decide)
  injective a b h := by
    cases a <;> cases b
    · rfl
    · exact absurd (Description.word.inj h) (by decide)
    · exact absurd (Description.word.inj h) (by decide)
    · rfl

instance : Faithful Sorting where
  legible sort := by
    refine Description.legible_record "Sort" ["field", "order"]
      [.quoted sort.field, describe sort.order] (by decide) (by decide) ?_
    simp [Faithful.legible, Description.Legible.quoted]
  injective s t h := by
    obtain ⟨-, hfields⟩ := Description.record.inj h
    simp only [List.cons.injEq, Prod.mk.injEq, true_and, and_true, Description.quoted.injEq,
      Faithful.injective.eq_iff] at hfields
    obtain ⟨hfield, horder⟩ := hfields
    cases s
    cases t
    simp_all

/-! ## Queries -/

namespace Query

variable {E : Entity}

theorem beq_iff {q r : Query E} : (q == r) = true ↔
    q.includes = r.includes ∧ q.excludes = r.excludes ∧ q.filter = r.filter ∧ q.sort = r.sort ∧
      q.search = r.search ∧ q.limit = r.limit ∧ q.offset = r.offset := by
  show Query.beq q r = true ↔ _
  simp only [Query.beq, Bool.and_eq_true, beq_iff_eq, and_assoc]

instance : LawfulBEq (Query E) where
  rfl := beq_iff.mpr ⟨rfl, rfl, rfl, rfl, rfl, rfl, rfl⟩
  eq_of_beq {q r} h := by
    obtain ⟨hincludes, hexcludes, hfilter, hsort, hsearch, hlimit, hoffset⟩ := beq_iff.mp h
    cases q
    cases r
    simp_all

/-- A number is shown by its digits. -/
theorem legible_describeWord (n : UInt64) : (describeWord n).Legible := by
  refine .word ⟨Text.decimal_ne_empty _, fun c hc hmark => ?_⟩
  exact Text.not_mem_decimal_natCast hmark.not_isDigit n.toNat hc

theorem describeWord_injective : Function.Injective describeWord := by
  intro m n h
  exact wordText_injective (Description.word.inj h)

theorem legible_names (names : List String) : (Description.list (names.map .quoted)).Legible := by
  refine .list fun item hitem => ?_
  obtain ⟨name, -, rfl⟩ := List.mem_map.mp hitem
  exact .quoted name

theorem names_inj {xs ys : List String}
    (h : xs.map Description.quoted = ys.map Description.quoted) : xs = ys :=
  (List.map_inj_right fun _ _ => Description.quoted.inj).mp h

instance : Faithful (Query E) where
  legible query := by
    refine Description.legible_record "Query"
      ["entity", "includes", "excludes", "filter", "sort", "search", "limit", "offset"]
      [.quoted E.name, .list (query.includes.map .quoted), .list (query.excludes.map .quoted),
        .option describe query.filter, .option describe query.sort, .option .quoted query.search,
        .option describeWord query.limit, .option describeWord query.offset]
      (by decide) (by decide) ?_
    simp [legible_names, Faithful.legible, Description.Legible.quoted,
      Description.legible_option, legible_describeWord]
  injective q r h := by
    obtain ⟨-, hparts⟩ := Description.record.inj h
    simp only [List.cons.injEq, Prod.mk.injEq, true_and, and_true, Description.list.injEq]
      at hparts
    obtain ⟨hincludes, hexcludes, hfilter, hsort, hsearch, hlimit, hoffset⟩ := hparts
    -- The entity is the same for both, so the parts behind it have to tell the queries apart.
    refine eq_of_beq (beq_iff.mpr ⟨names_inj hincludes, names_inj hexcludes, ?_, ?_, ?_, ?_, ?_⟩)
    · exact Description.option_injective Faithful.injective hfilter
    · exact Description.option_injective Faithful.injective hsort
    · exact Description.option_injective (fun _ _ => Description.quoted.inj) hsearch
    · exact Description.option_injective describeWord_injective hlimit
    · exact Description.option_injective describeWord_injective hoffset

/-- **The description of a query tells the query.** Whatever texts two queries of an entity hold,
they are shown by the same text just when they are equal, that is, when each of their parts is the
same; and filters are the same when they have the same field, operator and value, with the case of
the operator, however their clauses look. -/
theorem render_describe_eq_iff (q r : Query E) :
    ((describe q).render = (describe r).render ↔ (q == r) = true) ∧
      ((q == r) = true ↔
        q.includes = r.includes ∧ q.excludes = r.excludes ∧ q.filter = r.filter ∧
          q.sort = r.sort ∧ q.search = r.search ∧ q.limit = r.limit ∧ q.offset = r.offset) ∧
      (∀ f g : Filter, (f == g) = true ↔
        f.field = g.field ∧ f.operator = g.operator ∧ f.value = g.value) ∧
      ∀ s t : Sorting, (s == t) = true ↔ s.field = t.field ∧ s.order = t.order := by
  refine ⟨?_, beq_iff, fun f g => ?_, fun s t => ?_⟩
  · rw [Faithful.render_eq_iff, beq_iff_eq]
  · rw [beq_iff_eq, Filter.mk.injEq]
  · rw [beq_iff_eq, Sorting.mk.injEq]

example : (describe (Filter.join .and ⟨"a", .equal, "1"⟩ ⟨"b", .equal, "2"⟩)).render ≠
    (describe (⟨"a", .equal, "1 & b = 2"⟩ : Filter)).render := by
  decide +kernel

end Query

end Apicalypse

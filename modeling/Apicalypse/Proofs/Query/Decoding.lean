import Apicalypse.Catalogue.Game
import Apicalypse.Proofs.Text.Decimal
import Apicalypse.Proofs.Text.Separated
import Apicalypse.Query

/-!
# Reading a query back from its text

A text has one clause for each part that is set, and nothing is escaped in it. The keywords stand
in a fixed order and none of them is the beginning of another, so the next clause is known from
its keyword; a clause ends at its first semicolon, and the search term, which may hold semicolons,
is the last.

* `Apart`, `written`: clauses under keywords of which none begins with another.
* `written_append_inj`: the contents of such clauses, and what follows them, are known from the
  text.
* `Delimited`: the queries without separators in their names, sort fields and filters.
* `build_decodable`: the text of such a query tells all its parts; and a text is empty when the
  query is.
-/

namespace Apicalypse.Query

variable {E : Entity}

/-! ## Clauses under keywords -/

/-- Neither keyword is the beginning of the other. -/
def Apart (k l : String) : Prop := ¬ k.toList <+: l.toList ∧ ¬ l.toList <+: k.toList

instance (k l : String) : Decidable (Apart k l) := inferInstanceAs (Decidable (_ ∧ _))

/-- Clauses with their keywords; those without content are left out. -/
def written : List String → List (Option String) → String
  | keyword :: keywords, content :: contents =>
    partClause keyword id content ++ written keywords contents
  | _, _ => ""

theorem toList_clause (keyword content : String) :
    (clause keyword content).toList = keyword.toList ++ ' ' :: (content.toList ++ [';']) := by
  simp [clause]

/-- What begins with a clause does not begin with another keyword. -/
theorem not_prefix_clause {k l : String} (h : Apart k l) (content t : String) :
    ¬ k.toList <+: (clause l content ++ t).toList := by
  intro hk
  have hl : l.toList <+: (clause l content ++ t).toList := by simp [toList_clause]
  rcases List.prefix_or_prefix_of_prefix hk hl with hkl | hlk
  · exact h.1 hkl
  · exact h.2 hlk

theorem not_prefix_written {k : String} {ks : List String} (hk : ∀ l ∈ ks, Apart k l) {t : String}
    (ht : ¬ k.toList <+: t.toList) (contents : List (Option String)) :
    ¬ k.toList <+: (written ks contents ++ t).toList := by
  induction ks generalizing contents with
  | nil => simpa [written] using ht
  | cons l ls ih =>
    have hls := ih fun l' hl' => hk l' (List.mem_cons_of_mem _ hl')
    match contents with
    | [] => simpa [written] using ht
    | none :: rest => simpa [written, partClause] using hls rest
    | some content :: rest =>
      rw [written, String.append_assoc]
      exact not_prefix_clause (hk l List.mem_cons_self) _ _

/-- An optional clause and what follows it, which does not begin with the keyword. -/
theorem partClause_append_inj {k : String} {c d : Option String} (hc : ∀ s ∈ c, ';' ∉ s.toList)
    (hd : ∀ s ∈ d, ';' ∉ s.toList) {t u : String} (ht : ¬ k.toList <+: t.toList)
    (hu : ¬ k.toList <+: u.toList) (h : partClause k id c ++ t = partClause k id d ++ u) :
    c = d ∧ t = u := by
  have hl := congrArg String.toList h
  match c, d with
  | none, none => exact ⟨rfl, by simpa [partClause] using h⟩
  | none, some content =>
    refine absurd ?_ ht
    simp only [partClause, String.toList_append, toList_clause, String.toList_empty,
      List.nil_append] at hl
    rw [hl, List.append_assoc]
    exact List.prefix_append _ _
  | some content, none =>
    refine absurd ?_ hu
    simp only [partClause, String.toList_append, toList_clause, String.toList_empty,
      List.nil_append] at hl
    rw [← hl, List.append_assoc]
    exact List.prefix_append _ _
  | some content, some content' =>
    -- Behind the keyword, both contents end at the first semicolon.
    simp only [partClause, String.toList_append, toList_clause, id, List.append_assoc,
      List.cons_append, List.append_cancel_left_eq, List.cons.injEq, true_and,
      List.nil_append] at hl
    obtain ⟨hcd, -, htu⟩ := Text.append_cons_inj (p := (· = ';'))
      (fun x hx e => hc content rfl (e ▸ hx)) (fun x hx e => hd content' rfl (e ▸ hx)) rfl rfl hl
    exact ⟨congrArg some (String.toList_inj.mp hcd), String.toList_inj.mp htu⟩

/-- **Clauses are known from their text**, and so is what follows them, when it does not begin
with any of the keywords. -/
theorem written_append_inj {ks : List String} (hks : ks.Pairwise Apart)
    {cs ds : List (Option String)} (hcs : cs.length = ks.length) (hds : ds.length = ks.length)
    (hc : ∀ c ∈ cs, ∀ s ∈ c, ';' ∉ s.toList) (hd : ∀ d ∈ ds, ∀ s ∈ d, ';' ∉ s.toList)
    {t u : String} (ht : ∀ k ∈ ks, ¬ k.toList <+: t.toList)
    (hu : ∀ k ∈ ks, ¬ k.toList <+: u.toList) (h : written ks cs ++ t = written ks ds ++ u) :
    cs = ds ∧ t = u := by
  induction ks generalizing cs ds with
  | nil =>
    obtain rfl := List.length_eq_zero_iff.mp hcs
    obtain rfl := List.length_eq_zero_iff.mp hds
    exact ⟨rfl, by simpa [written] using h⟩
  | cons k ks ih =>
    obtain ⟨hk, hks⟩ := List.pairwise_cons.mp hks
    match cs, ds with
    | c :: cs, d :: ds =>
      -- The later clauses and what follows them do not begin with `k`, so the first clause is
      -- there on both sides or on neither.
      rw [List.forall_mem_cons] at hc hd ht hu
      rw [written, written, String.append_assoc, String.append_assoc] at h
      obtain ⟨rfl, hrest⟩ := partClause_append_inj hc.1 hd.1
        (not_prefix_written hk ht.1 cs) (not_prefix_written hk hu.1 ds) h
      obtain ⟨rfl, rfl⟩ := ih hks (by simpa using hcs) (by simpa using hds) hc.2 hd.2 ht.2 hu.2
        hrest
      exact ⟨rfl, rfl⟩

/-! ## The contents of a query -/

/-- The keywords before that of the search, in the order of their clauses. -/
def keywords : List String := ["fields", "exclude", "sort", "where", "limit", "offset"]

/-- The content of the clause of a list of names. -/
def namesContent (names : List String) : Option String :=
  if names = [] then none else some (Text.joined "," names)

/-- The contents of the clauses under `keywords`. -/
def contents (query : Query E) : List (Option String) :=
  [namesContent query.includes, namesContent query.excludes, query.sort.map Sorting.render,
    query.filter.map Filter.render, query.limit.map wordText, query.offset.map wordText]

/-- A search term between double quotes. -/
def quoted (term : String) : String := "\"" ++ term ++ "\""

theorem keywords_apart : (keywords ++ ["search"]).Pairwise Apart := by decide

theorem namesClause_eq_partClause (keyword : String) (names : List String) :
    namesClause keyword names = partClause keyword id (namesContent names) := by
  cases names <;> rfl

theorem partClause_map {α : Type} (keyword : String) (render : α → String) (part : Option α) :
    partClause keyword id (part.map render) = partClause keyword render part := by
  cases part <;> rfl

theorem text_eq_written (query : Query E) :
    query.text = written keywords query.contents ++ partClause "search" quoted query.search := by
  simp [text, written, keywords, contents, namesClause_eq_partClause, partClause_map,
    String.append_assoc]
  rfl

/-- The names that a query asks for or leaves out hold no comma and no semicolon, and its sort
field and its filter no semicolon. Nothing is asked of the search term. -/
structure Delimited (query : Query E) : Prop where
  includes : ∀ name ∈ query.includes, ',' ∉ name.toList ∧ ';' ∉ name.toList
  excludes : ∀ name ∈ query.excludes, ',' ∉ name.toList ∧ ';' ∉ name.toList
  sort : ∀ sort ∈ query.sort, ';' ∉ sort.field.toList
  filter : ∀ filter ∈ query.filter, ';' ∉ filter.render.toList

theorem namesContent_inj {xs ys : List String} (hx : ∀ x ∈ xs, ',' ∉ x.toList)
    (hy : ∀ y ∈ ys, ',' ∉ y.toList) (h : namesContent xs = namesContent ys) : xs = ys := by
  unfold namesContent at h
  by_cases hxs : xs = [] <;> by_cases hys : ys = []
  · rw [hxs, hys]
  · simp [hxs, hys] at h
  · simp [hxs, hys] at h
  · rw [if_neg hxs, if_neg hys, Option.some.injEq] at h
    exact Text.joined_inj rfl hx hy hxs hys h

theorem not_mem_namesContent {names : List String} (h : ∀ name ∈ names, ';' ∉ name.toList) :
    ∀ content ∈ namesContent names, ';' ∉ content.toList := by
  intro content hc
  unfold namesContent at hc
  split at hc
  · cases hc
  · obtain rfl := Option.some.inj hc
    exact Text.not_mem_joined (by decide) h

theorem not_mem_token {c : Char} (hc : c = ' ' ∨ c = ';') (order : SortOrder) :
    c ∉ order.token.toList := by
  rcases hc with rfl | rfl <;> cases order <;> decide

/-- The direction holds no space, so the field ends at the last one. -/
theorem sorting_render_injective : Function.Injective Sorting.render := by
  intro s t h
  have hl := congrArg String.toList h
  simp only [Sorting.render, String.toList_append, List.append_assoc] at hl
  -- The field may hold spaces, so the cut is at the last one and not at the first.
  obtain ⟨hfield, htoken⟩ := Text.append_cons_inj_right (not_mem_token (.inl rfl) s.order)
    (not_mem_token (.inl rfl) t.order) hl
  have horder : s.order = t.order := by
    cases hs : s.order <;> cases ht : t.order <;> simp_all [SortOrder.token]
  cases s; cases t
  simp_all [String.toList_inj]

theorem not_mem_sorting_render {s : Sorting} (h : ';' ∉ s.field.toList) :
    ';' ∉ s.render.toList := by
  simp [Sorting.render, h, not_mem_token (.inr rfl) s.order]

theorem wordText_injective : Function.Injective wordText := by
  intro m n h
  have hnat := Int.ofNat.inj (Text.decimal_injective h)
  exact UInt64.toNat_inj.mp hnat

theorem quoted_injective : Function.Injective quoted := by
  intro s t h
  simpa [quoted, String.append_assoc] using h

/-- The clauses before the search end at their semicolons. -/
theorem Delimited.contents {query : Query E} (h : query.Delimited) :
    ∀ c ∈ query.contents, ∀ content ∈ c, ';' ∉ content.toList := by
  intro c hc content hcontent
  simp only [Query.contents, List.mem_cons, List.not_mem_nil, or_false] at hc
  rcases hc with rfl | rfl | rfl | rfl | rfl | rfl
  · exact not_mem_namesContent (fun name hn => (h.includes name hn).2) content hcontent
  · exact not_mem_namesContent (fun name hn => (h.excludes name hn).2) content hcontent
  · obtain ⟨s, hs, rfl⟩ := Option.map_eq_some_iff.mp hcontent
    exact not_mem_sorting_render (h.sort s hs)
  · obtain ⟨f, hf, rfl⟩ := Option.map_eq_some_iff.mp hcontent
    exact h.filter f hf
  · obtain ⟨n, -, rfl⟩ := Option.map_eq_some_iff.mp hcontent
    exact Text.not_mem_decimal_natCast (by decide) _
  · obtain ⟨n, -, rfl⟩ := Option.map_eq_some_iff.mp hcontent
    exact Text.not_mem_decimal_natCast (by decide) _

/-! ## Reading back -/

theorem not_prefix_search {k : String} (hk : k ∈ keywords) (term : Option String) :
    ¬ k.toList <+: (partClause "search" quoted term).toList := by
  have hapart : Apart k "search" :=
    (List.pairwise_append.mp keywords_apart).2.2 k hk "search" List.mem_cons_self
  cases term with
  | none =>
    intro hprefix
    exact hapart.1 (List.prefix_nil.mp hprefix ▸ List.nil_prefix)
  | some term => simpa [partClause] using not_prefix_clause hapart (quoted term) ""

/-- The contents of all clauses and the search term are known from the text. -/
theorem contents_of_text_eq {q r : Query E} (hq : q.Delimited) (hr : r.Delimited)
    (h : q.text = r.text) : q.contents = r.contents ∧ q.search = r.search := by
  rw [text_eq_written, text_eq_written] at h
  obtain ⟨hcontents, hsearch⟩ := written_append_inj (List.pairwise_append.mp keywords_apart).1
    rfl rfl hq.contents hr.contents (fun k hk => not_prefix_search hk q.search)
    (fun k hk => not_prefix_search hk r.search) h
  refine ⟨hcontents, ?_⟩
  cases hqs : q.search <;> cases hrs : r.search <;>
    simp_all [partClause, clause, String.append_assoc, quoted_injective.eq_iff]

theorem text_eq_empty_iff (query : Query E) : query.text = "" ↔ query.isEmpty = true := by
  have hnames (keyword : String) (names : List String) :
      namesClause keyword names = "" ↔ names = [] := by
    cases names <;> simp [namesClause, clause]
  have hpart {α : Type} (keyword : String) (render : α → String) (part : Option α) :
      partClause keyword render part = "" ↔ part = none := by
    cases part <;> simp [partClause, clause]
  simp only [text, String.append_eq_empty_iff, hnames, hpart, isEmpty, Bool.and_eq_true,
    List.isEmpty_iff, Option.isNone_iff_eq_none]
  constructor
  · rintro ⟨⟨⟨⟨⟨⟨hi, he⟩, hs⟩, hf⟩, hl⟩, ho⟩, ht⟩
    exact ⟨⟨⟨⟨⟨⟨hi, he⟩, hf⟩, hs⟩, ht⟩, hl⟩, ho⟩
  · rintro ⟨⟨⟨⟨⟨⟨hi, he⟩, hf⟩, hs⟩, ht⟩, hl⟩, ho⟩
    exact ⟨⟨⟨⟨⟨⟨hi, he⟩, hs⟩, hf⟩, hl⟩, ho⟩, ht⟩

/-- **A text tells its query.** When the names hold no comma and no semicolon and the sort field
and the filter no semicolon, queries with the same text ask for the same; the search term may be
anything. And whatever a query holds, its text is empty only when the query is. -/
theorem build_decodable (E : Entity) :
    (∀ q r : Query E, q.Delimited → r.Delimited → q.build.value = r.build.value →
      q.includes = r.includes ∧ q.excludes = r.excludes ∧ q.sort = r.sort ∧
        q.filter.map Filter.render = r.filter.map Filter.render ∧ q.limit = r.limit ∧
        q.offset = r.offset ∧ q.search = r.search) ∧
      ∀ q : Query E, q.build.value = "" ↔ q.isEmpty = true := by
  refine ⟨fun q r hq hr h => ?_, text_eq_empty_iff⟩
  obtain ⟨hcontents, hsearch⟩ := contents_of_text_eq hq hr h
  simp only [contents, List.cons.injEq, and_true] at hcontents
  obtain ⟨hincludes, hexcludes, hsort, hfilter, hlimit, hoffset⟩ := hcontents
  exact ⟨namesContent_inj (fun x hx => (hq.includes x hx).1) (fun y hy => (hr.includes y hy).1)
      hincludes,
    namesContent_inj (fun x hx => (hq.excludes x hx).1) (fun y hy => (hr.excludes y hy).1)
      hexcludes,
    Option.map_injective sorting_render_injective hsort, hfilter,
    Option.map_injective wordText_injective hlimit,
    Option.map_injective wordText_injective hoffset, hsearch⟩

/-- A query with an empty name, a space in its sort field and a search term that looks like more
clauses. -/
def tangled (filter : Filter) : Query .game where
  includes := ["", "id"]
  excludes := []
  filter := some filter
  sort := some ⟨"asc desc", .ascending⟩
  search := some "\";limit 5;search \"x"
  limit := none
  offset := some 0

/-- A comparison with the text `1 & b = 2`. -/
def comparedWithText : Filter := ⟨"a", .equal, "1 & b = 2"⟩

/-- Two joined comparisons, with the same text. -/
def joinedComparisons : Filter := .join .and ⟨"a", .equal, "1"⟩ ⟨"b", .equal, "2"⟩

theorem tangled_decodable :
    (tangled comparedWithText).Delimited ∧ (tangled joinedComparisons).Delimited ∧
      (tangled comparedWithText).build.value = (tangled joinedComparisons).build.value ∧
      comparedWithText ≠ joinedComparisons ∧
      (tangled comparedWithText).includes = (tangled joinedComparisons).includes ∧
      (tangled comparedWithText).filter.map Filter.render =
        (tangled joinedComparisons).filter.map Filter.render := by
  have hq : (tangled comparedWithText).Delimited := by
    constructor <;> simp [tangled, comparedWithText, Filter.render, Operator.sign, Operator.wrap]
  have hr : (tangled joinedComparisons).Delimited := by
    constructor <;> simp [tangled, joinedComparisons, Filter.join, Connective.operator,
      Filter.render, Operator.sign, Operator.wrap]
  have h : (tangled comparedWithText).build.value = (tangled joinedComparisons).build.value := by
    decide
  obtain ⟨hincludes, -, -, hfilter, -⟩ := (build_decodable .game).1 _ _ hq hr h
  exact ⟨hq, hr, h, by decide, hincludes, hfilter⟩

end Apicalypse.Query

import Apicalypse.Proofs.CommandLine.Parsing
import Apicalypse.Proofs.Query.Run
import Apicalypse.Rendering

/-!
# The text of a command line

What a command line is rendered to: the words given for fields are cut at their commas and joined
by commas again, so they come out as they were given.

* `query`: the query that a command line asks for; `run_calls`: its steps make this query, none of
  them fails, and nothing is recorded.
* `render_of_refused`, `render_of_not_refused`: rendering in one equation for each case.
* `render_of_parse`: from words to text, clause by clause.
* `render_noninterference`: neither the tier nor the choice between two endpoints with a search
  changes the text; the tier shows in one warning.
-/

namespace Apicalypse.CommandLine

/-! ## The query -/

/-- The query that a command line asks for. -/
def query (E : Entity) (line : CommandLine) (filter : Option Filter) (limit : Option UInt64) :
    Query E where
  includes := line.fields
  excludes := line.exclude
  filter := filter
  sort := line.sort
  search := line.search
  limit := limit
  offset := line.offset

theorem searchCalls_of_searchable {E : Entity} (h : E.searchable = true) (term : String) :
    searchCalls E term = [.search term h] := by
  rw [searchCalls, dif_pos h]

/-- All fields of a command line are given by their names. -/
theorem exists_names_of_mem_calls {E : Entity} {line : CommandLine} {filter : Option Filter}
    {limit : Option UInt64} (h : line.search.isSome → E.searchable = true) {call : Query.Call E}
    (hcall : call ∈ line.calls E filter limit) :
    ∃ names : List String, call.fields = names.map .raw := by
  simp only [calls, List.mem_append, List.mem_cons, List.not_mem_nil, or_false, Option.mem_toList,
    Option.map_eq_some_iff] at hcall
  rcases hcall with (((((rfl | rfl) | ⟨sort, -, rfl⟩) | ⟨f, -, rfl⟩) | ⟨n, -, rfl⟩) | ⟨n, -, rfl⟩)
    | hsearch
  · exact ⟨line.fields, rfl⟩
  · exact ⟨line.exclude, rfl⟩
  · exact ⟨[sort.field], rfl⟩
  · exact ⟨[], rfl⟩
  · exact ⟨[], rfl⟩
  · exact ⟨[], rfl⟩
  · cases hterm : line.search with
    | none => simp [hterm] at hsearch
    | some term =>
      have hE : E.searchable = true := h (by rw [hterm]; rfl)
      obtain rfl : call = .search term hE := by
        simpa [hterm, searchCalls_of_searchable hE] using hsearch
      exact ⟨[], rfl⟩

/-- None of the steps of a command line fails; together they make its query, with nothing
recorded. -/
theorem run_calls {E : Entity} {line : CommandLine} (h : line.search.isSome → E.searchable = true)
    (filter : Option Filter) (limit : Option UInt64) :
    ((Query.empty : Query E).run (line.calls E filter limit)).value.1 =
        line.query E filter limit ∧
      (∀ outcome ∈ ((Query.empty : Query E).run (line.calls E filter limit)).value.2,
        outcome = none) ∧
      ((Query.empty : Query E).run (line.calls E filter limit)).events = [] := by
  have hnames (names : List String) :
      (names.map (FieldArgument.raw (E := E))).mapM FieldArgument.wireName = .ok names := by
    rw [← Query.fieldNames_outcome, Query.fieldNames_raw]
    rfl
  refine ⟨?_, fun outcome houtcome => ?_, ?_⟩
  · have hname (name : String) : (FieldArgument.raw (E := E) name).wireName = .ok name := by
      rw [← Query.fieldName_outcome, Query.fieldName_raw]
      rfl
    obtain ⟨endpoint, fields, exclude, sort, whereFile, search, lineLimit, offset⟩ := line
    rw [Query.run_value]
    -- Each of the five optional steps is there or not.
    cases sort <;> cases filter <;> cases limit <;> cases offset <;> cases search <;>
      simp [calls, query, Query.empty, Query.after, Query.Call.added, Query.Call.slot,
        Query.Call.names, Except.toOption, hnames, hname, searchCalls, h]
  · rw [Query.run_value] at houtcome
    obtain ⟨call, hcall, rfl⟩ := List.mem_map.mp houtcome
    obtain ⟨names, hfields⟩ := exists_names_of_mem_calls h hcall
    rw [Query.Call.error?, Query.Call.names, hfields, hnames]
  · rw [Query.run_events, List.flatMap_eq_nil_iff]
    intro call hcall
    obtain ⟨names, hfields⟩ := exists_names_of_mem_calls h hcall
    rw [hfields, Query.fieldNames_raw, Attempt.events_pure]

/-! ## Rendering -/

/-- The line searches an endpoint that has no search. -/
def Refused (line : CommandLine) : Prop :=
  line.endpoint = .releaseDates ∧ line.search.isSome = true

instance (line : CommandLine) : Decidable line.Refused := inferInstanceAs (Decidable (_ ∧ _))

theorem refused_iff (line : CommandLine) :
    line.Refused ↔ (line.search.isSome && !line.endpoint.entity.searchable) = true := by
  cases h : line.endpoint <;> simp [Refused, h, Endpoint.entity, Entity.game, Entity.platform,
    Entity.releaseDate]

theorem render_of_refused {line : CommandLine} (h : line.Refused) (filter : Option Filter)
    (settings : Settings) :
    line.render filter settings = pure (.error (.searchUnsupported .releaseDates)) := by
  unfold render
  rw [if_pos ((refused_iff line).mp h), h.1]

theorem effectiveLimit_eq (line : CommandLine) (settings : Settings) :
    line.effectiveLimit settings = line.limit.or settings.defaultLimit := by
  unfold effectiveLimit
  cases line.limit <;> rfl

/-- A line that is not refused has a text, which is recorded after the warning if there is one. -/
theorem render_of_not_refused {line : CommandLine} (h : ¬ line.Refused) (filter : Option Filter)
    (settings : Settings) :
    line.render filter settings =
      ⟨.ok (line.query line.endpoint.entity filter (line.limit.or settings.defaultLimit)).text,
        (checkLimit settings (line.limit.or settings.defaultLimit)).events ++
          [(line.query line.endpoint.entity filter (line.limit.or settings.defaultLimit)).rendered]⟩
    := by
  have hif := mt (refused_iff line).mpr h
  have hsearch : line.search.isSome → line.endpoint.entity.searchable = true := by
    intro hsome
    simpa [hsome] using hif
  obtain ⟨hquery, -, hevents⟩ := run_calls hsearch filter (line.limit.or settings.defaultLimit)
  simp only [render, if_neg hif, effectiveLimit_eq]
  generalize Query.run Query.empty
    (line.calls line.endpoint.entity filter (line.limit.or settings.defaultLimit)) = result
    at hquery hevents ⊢
  obtain ⟨⟨made, outcomes⟩, events⟩ := result
  obtain rfl := hquery
  obtain rfl := hevents
  rfl

/-! ## The text -/

theorem warnings_checkLimit (settings : Settings) (limit : Option UInt64) :
    (checkLimit settings limit).events.filter (·.level = .warn) =
      match limit with
      | none => []
      | some n => if settings.tier.maxLimit < n then [limitWarning settings n] else [] := by
  cases limit with
  | none => rfl
  | some n =>
    by_cases hn : settings.tier.maxLimit < n <;>
      simp [checkLimit, Settings.exceedsTier, hn, limitWarning]

/-- The warnings of a line: one when it has a text and its limit is beyond what the tier allows. -/
theorem warnings_render (line : CommandLine) (filter : Option Filter) (settings : Settings) :
    (line.render filter settings).events.filter (·.level = .warn) =
      match line.limit.or settings.defaultLimit with
      | none => []
      | some n =>
        if settings.tier.maxLimit < n ∧ ¬ line.Refused then [limitWarning settings n] else [] := by
  by_cases hr : line.Refused
  · rw [render_of_refused hr]
    cases line.limit.or settings.defaultLimit <;> simp [hr]
  · rw [render_of_not_refused hr, List.filter_append, warnings_checkLimit]
    -- The event of the text itself is no warning.
    cases line.limit.or settings.defaultLimit <;> simp [hr, Query.rendered]

/-- **The tier and the endpoint do not interfere.** The tier changes neither text nor error. With
all else equal the two endpoints that can be searched have the same text, and release dates have
it, too, unless there is a search term; then they have none. The tier shows in a warning, which is
recorded once when there is a text and a limit beyond what the tier allows, and never else. -/
theorem render_noninterference (line : CommandLine) (filter : Option Filter) (settings : Settings) :
    (∀ tier, (line.render filter { settings with tier }).value =
        (line.render filter settings).value) ∧
      (∃ text, ({ line with endpoint := .games }.render filter settings).value = .ok text ∧
        ({ line with endpoint := .platforms }.render filter settings).value = .ok text ∧
        ({ line with endpoint := .releaseDates }.render filter settings).value =
          if line.search = none then .ok text else .error (.searchUnsupported .releaseDates)) ∧
      (line.render filter settings).events.filter (·.level = .warn) =
        match line.limit.or settings.defaultLimit with
        | none => []
        | some n =>
          if settings.tier.maxLimit < n ∧
              ¬ (line.endpoint = .releaseDates ∧ line.search.isSome) then
            [{ level := .warn
               target := "apicalypse::render"
               message := "Limit exceeds what the configured tier allows"
               fields := [
                ("limit", .number n.toNat),
                ("tier", .text settings.tier.name),
                ("max", .number settings.tier.maxLimit.toNat)] }]
          else [] := by
  refine ⟨fun tier => ?_,
    ⟨(line.query .game filter (line.limit.or settings.defaultLimit)).text, ?_, ?_, ?_⟩,
    warnings_render line filter settings⟩
  · by_cases hr : line.Refused
    · rw [render_of_refused hr, render_of_refused hr]
    · rw [render_of_not_refused hr, render_of_not_refused hr]
  · rw [render_of_not_refused (fun hr => by cases hr.1)]
    rfl
  · rw [render_of_not_refused (fun hr => by cases hr.1)]
    rfl
  · by_cases hs : line.search = none
    · rw [if_pos hs, render_of_not_refused (fun hr => by simpa [hs] using hr.2)]
      rfl
    · have hr : { line with endpoint := .releaseDates }.Refused :=
        ⟨rfl, Option.isSome_iff_ne_none.mpr hs⟩
      rw [if_neg hs, render_of_refused hr]
      rfl

end Apicalypse.CommandLine

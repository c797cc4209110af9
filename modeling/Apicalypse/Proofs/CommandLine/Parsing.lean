import Mathlib.Data.List.Forall2
import Apicalypse.CommandLine
import Apicalypse.Proofs.CommandLine.Word
import Apicalypse.Proofs.Sorting
import Apicalypse.Proofs.Text.Decimal

/-!
# What a command line is read from

A command line holds what the occurrences in its words say, and nothing else.

* `endpoints`, `values`: the texts that occurrences give for the endpoint and for a parameter.
* `Draft.Takes`: what a draft holds for a parameter is what texts say; taking in a value adds one
  text for its own parameter and leaves the others alone.
* `parse_eq_ok`: what is known of the occurrences in words that are a command line.
-/

namespace Apicalypse

/-! ## Endpoints -/

theorem Endpoint.name_of_ofName? {text : String} {e : Endpoint}
    (h : Endpoint.ofName? text = some e) : e.name = text := by
  unfold Endpoint.ofName? at h
  split at h <;> cases h <;> rfl

namespace CommandLine

/-! ## Given texts -/

/-- The text of an endpoint. -/
def Occurrence.endpoint? : Occurrence → Option String
  | .endpoint text => some text
  | .parameter .. => none

/-- The value that an occurrence gives to a parameter. -/
def Occurrence.value? (p : Parameter) : Occurrence → Option String
  | .endpoint _ => none
  | .parameter q value => if q = p then value else none

/-- The texts given for the endpoint. -/
def endpoints (given : List Occurrence) : List String := given.filterMap Occurrence.endpoint?

/-- The values given to a parameter, in their order. -/
def values (p : Parameter) (given : List Occurrence) : List String :=
  given.filterMap (Occurrence.value? p)

theorem endpoints_concat (given : List Occurrence) (o : Occurrence) :
    endpoints (given ++ [o]) = endpoints given ++ o.endpoint?.toList := by
  cases h : o.endpoint? <;> simp [endpoints, h]

theorem values_concat (p : Parameter) (given : List Occurrence) (o : Occurrence) :
    values p (given ++ [o]) = values p given ++ (o.value? p).toList := by
  cases h : o.value? p <;> simp [values, h]

theorem exists_of_bind_eq_ok {α β : Type} {first : Except UsageError α}
    {next : α → Except UsageError β} {b : β} (h : first >>= next = .ok b) :
    ∃ a, first = .ok a ∧ next a = .ok b := by
  cases first with
  | error e => cases h
  | ok a => exact ⟨a, rfl, h⟩

theorem exists_of_map_eq_ok {α β : Type} {first : Except UsageError α} {f : α → β} {b : β}
    (h : (do let a ← first; return f a) = .ok b) : ∃ a, first = .ok a ∧ f a = b := by
  obtain ⟨a, hfirst, ha⟩ := exists_of_bind_eq_ok h
  exact ⟨a, hfirst, Except.ok.inj ha⟩

theorem eq_ok_of_mapError {α ε : Type} {value : Except ε α} {wrap : ε → UsageError} {a : α}
    (h : value.mapError wrap = .ok a) : value = .ok a := by
  cases value with
  | error e => cases h
  | ok b => exact congrArg Except.ok (Except.ok.inj h)

namespace Draft

/-- The draft holds for a parameter what texts say that were given as its values. The texts of
fields are split at their commas; of any other parameter there is one text at most. -/
def Takes (draft : Draft) (texts : List String) : Parameter → Prop
  | .fields => draft.fields = texts.flatMap (Text.pieces ',')
  | .exclude => draft.exclude = texts.flatMap (Text.pieces ',')
  | .sort => List.Forall₂ Sorting.WrittenBy texts draft.sort.toList
  | .whereFile => List.Forall₂ (· = ·) texts draft.whereFile.toList
  | .search => List.Forall₂ (· = ·) texts draft.search.toList
  | .limit => List.Forall₂ Text.WritesWord texts draft.limit.toList
  | .offset => List.Forall₂ Text.WritesWord texts draft.offset.toList

/-- A value is only taken when there was none before. -/
theorem forall₂_once {α : Type} {writes : String → α → Prop} {texts : List String}
    {current result : Option α} {text : String} {value : Except UsageError α}
    (h : List.Forall₂ writes texts current.toList) (honce : once current value = .ok result)
    (hvalue : ∀ a, value = .ok a → writes text a) :
    List.Forall₂ writes (texts ++ [text]) result.toList := by
  unfold once at honce
  cases current with
  | some a => simp at honce
  | none =>
    obtain rfl : texts = [] := by simpa using h
    cases value with
    | error e => cases honce
    | ok a =>
      obtain rfl : some a = result := Except.ok.inj honce
      exact .cons (hvalue a rfl) .nil

theorem eq_of_fileName {value name : String} (h : fileName value = .ok name) : value = name := by
  unfold fileName at h
  split at h
  · cases h
  · exact Except.ok.inj h

/-- A value that is taken in is one more text for its parameter. -/
theorem takes_setParameter {draft next : Draft} {p : Parameter} {texts : List String}
    {value : String} (h : draft.Takes texts p) (hset : draft.setParameter value p = .ok next) :
    next.Takes (texts ++ [value]) p := by
  cases p with
  | fields | exclude =>
    obtain rfl := Except.ok.inj hset
    simp only [Takes] at h ⊢
    simp [h]
  | sort =>
    obtain ⟨result, honce, rfl⟩ := exists_of_map_eq_ok hset
    exact forall₂_once h honce fun sort hsort =>
      Sorting.parse_eq_ok_iff.mp (eq_ok_of_mapError hsort)
  | whereFile =>
    obtain ⟨result, honce, rfl⟩ := exists_of_map_eq_ok hset
    exact forall₂_once h honce fun name => eq_of_fileName
  | search =>
    obtain ⟨result, honce, rfl⟩ := exists_of_map_eq_ok hset
    exact forall₂_once h honce fun term => Except.ok.inj
  | limit | offset =>
    obtain ⟨result, honce, rfl⟩ := exists_of_map_eq_ok hset
    exact forall₂_once h honce fun n hn => Text.writesWord_of_readWord (eq_ok_of_mapError hn)

/-- A value that is taken in says nothing of the other parameters and of the endpoint. -/
theorem setParameter_frame {draft next : Draft} {q : Parameter} {value : String}
    (hset : draft.setParameter value q = .ok next) : next.endpoint = draft.endpoint ∧
      ∀ p texts, q ≠ p → draft.Takes texts p → next.Takes texts p := by
  cases q with
  | fields | exclude =>
    obtain rfl := Except.ok.inj hset
    refine ⟨rfl, fun p texts hne h => ?_⟩
    cases p <;> first | exact absurd rfl hne | exact h
  | sort | whereFile | search | limit | offset =>
    obtain ⟨result, -, rfl⟩ := exists_of_map_eq_ok hset
    refine ⟨rfl, fun p texts hne h => ?_⟩
    cases p <;> first | exact absurd rfl hne | exact h

/-- The draft holds what the occurrences say, each of which is complete. -/
structure Reads (draft : Draft) (given : List Occurrence) : Prop where
  complete : ∀ o ∈ given, o.Complete
  endpoint : (endpoints given).getLast? = draft.endpoint.map Endpoint.name
  takes : ∀ p, draft.Takes (values p given) p

theorem Reads.addEndpoint {draft next : Draft} {given : List Occurrence} {text : String}
    (h : draft.Reads given) (hadd : draft.add (.endpoint text) = .ok next) :
    next.Reads (given ++ [.endpoint text]) := by
  rw [add] at hadd
  split at hadd
  · next e he =>
    obtain rfl := Except.ok.inj hadd
    constructor
    · exact List.forall_mem_append.mpr ⟨h.complete, by simp [Occurrence.Complete]⟩
    · simp [endpoints_concat, Occurrence.endpoint?, Endpoint.name_of_ofName? he]
    · intro p
      have hp := h.takes p
      rw [values_concat, Occurrence.value?, Option.toList_none, List.append_nil]
      cases p <;> exact hp
  · cases hadd

theorem Reads.addValue {draft next : Draft} {given : List Occurrence} {q : Parameter}
    {value : String} (h : draft.Reads given) (hset : draft.setParameter value q = .ok next) :
    next.Reads (given ++ [.parameter q (some value)]) := by
  obtain ⟨hendpoint, hother⟩ := setParameter_frame hset
  constructor
  · exact List.forall_mem_append.mpr ⟨h.complete, by simp [Occurrence.Complete]⟩
  · rw [endpoints_concat, Occurrence.endpoint?, Option.toList_none, List.append_nil, hendpoint]
    exact h.endpoint
  · intro p
    rw [values_concat, Occurrence.value?]
    by_cases hp : q = p
    · subst hp
      simpa using takes_setParameter (h.takes q) hset
    · simpa [hp] using hother p _ hp (h.takes p)

theorem Reads.add {draft next : Draft} {given : List Occurrence} {o : Occurrence}
    (h : draft.Reads given) (hadd : draft.add o = .ok next) : next.Reads (given ++ [o]) := by
  match o with
  | .endpoint text => exact h.addEndpoint hadd
  | .parameter q none => cases hadd
  | .parameter q (some value) => exact h.addValue hadd

theorem Reads.addAll {draft last : Draft} {given later : List Occurrence} (h : draft.Reads given)
    (hadd : draft.addAll later = .ok last) : last.Reads (given ++ later) := by
  induction later generalizing draft given with
  | nil =>
    obtain rfl := Except.ok.inj hadd
    simpa using h
  | cons o rest ih =>
    obtain ⟨next, hnext, hrest⟩ := exists_of_bind_eq_ok hadd
    simpa using ih (h.add hnext) hrest

end Draft

/-! ## Command lines -/

/-- A command line as a draft. -/
def draft (line : CommandLine) : Draft where
  endpoint := some line.endpoint
  fields := line.fields
  exclude := line.exclude
  sort := line.sort
  whereFile := line.whereFile
  search := line.search
  limit := line.limit
  offset := line.offset

end CommandLine

end Apicalypse

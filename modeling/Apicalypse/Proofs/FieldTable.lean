import Apicalypse.Catalogue.Platform
import Apicalypse.Proofs.FieldPath
import Mathlib.Data.Finset.Card
import Mathlib.Data.List.Perm.Basic

/-!
# Tables as finite maps

What a table answers, in terms of the list of declarations that it was made from.

* `name?_declare`, `keys_declare`: what one more declaration changes.
* `name?_ofEntries`: the name of a key is that of its last declaration.
* `nodup_keys`, `mem_keys`: the table holds each declared key once.
* `resolve_eq_ok_iff`, `resolve_eq_error_iff`: when a key has a path, and which.
* `Rearranged`: lists that declare the same for each key, in the same order.
* `ofEntries_finiteMap`: all answers of a table.
-/

namespace Apicalypse.FieldTable

variable {κ : Type} [DecidableEq κ] {entity : String}

/-- The keys with a name. -/
def keys (table : FieldTable κ) : List κ := table.entries.map Prod.fst

/-- The table after one more declaration. -/
def declare (table : FieldTable κ) (key : κ) (name : String) : FieldTable κ :=
  ⟨table.entity, insert key name table.entries⟩

/-! ## One declaration -/

theorem name?_declare (table : FieldTable κ) (key : κ) (name : String) (other : κ) :
    (table.declare key name).name? other =
      if key = other then some name else table.name? other := by
  obtain ⟨entity, entries⟩ := table
  induction entries with
  | nil => by_cases h : key = other <;> simp [declare, insert, name?, h]
  | cons entry rest ih =>
    unfold declare name? at ih ⊢
    rw [insert]
    by_cases hentry : entry.1 = key
    · by_cases h : key = other <;> simp [hentry, h]
    · rw [if_neg hentry]
      by_cases hother : entry.1 = other
      · have h : key ≠ other := fun e => hentry (hother.trans e.symm)
        simp [hother, h]
      · simpa [hother] using ih

/-- A key that is there keeps its place, a new one comes last. -/
theorem keys_declare (table : FieldTable κ) (key : κ) (name : String) :
    (table.declare key name).keys =
      if key ∈ table.keys then table.keys else table.keys ++ [key] := by
  obtain ⟨entity, entries⟩ := table
  induction entries with
  | nil => simp [declare, keys, insert]
  | cons entry rest ih =>
    unfold declare keys at ih ⊢
    by_cases hentry : entry.1 = key
    · simp [insert, hentry]
    · have hne : key ≠ entry.1 := Ne.symm hentry
      rw [insert, if_neg hentry, List.map_cons, ih, List.map_cons]
      by_cases h : key ∈ rest.map Prod.fst <;> simp [h, hne]

/-! ## All declarations -/

theorem ofEntries_concat (declarations : List (κ × String)) (declaration : κ × String) :
    ofEntries entity (declarations ++ [declaration]) =
      (ofEntries entity declarations).declare declaration.1 declaration.2 := by
  simp [ofEntries, declare]

/-- **The last declaration of a key names it.** -/
theorem name?_ofEntries (declarations : List (κ × String)) (key : κ) :
    (ofEntries entity declarations).name? key =
      (declarations.filter (·.1 = key)).getLast?.map Prod.snd := by
  -- A table takes its declarations in one by one, so the last of them is split off.
  induction declarations using List.reverseRecOn with
  | nil => rfl
  | append_singleton declarations declaration ih =>
    rw [ofEntries_concat, name?_declare, ih]
    by_cases h : declaration.1 = key <;> simp [List.filter_append, h]

theorem nodup_keys (declarations : List (κ × String)) :
    (ofEntries entity declarations).keys.Nodup := by
  induction declarations using List.reverseRecOn with
  | nil => exact List.nodup_nil
  | append_singleton declarations declaration ih =>
    rw [ofEntries_concat, keys_declare]
    split
    · exact ih
    · next hnew =>
      refine List.nodup_append.mpr ⟨ih, List.nodup_singleton _, fun key hkey other hother e => ?_⟩
      obtain rfl := List.mem_singleton.mp hother
      exact hnew (e ▸ hkey)

theorem mem_keys (declarations : List (κ × String)) (key : κ) :
    key ∈ (ofEntries entity declarations).keys ↔ key ∈ declarations.map Prod.fst := by
  induction declarations using List.reverseRecOn with
  | nil => rfl
  | append_singleton declarations declaration ih =>
    rw [ofEntries_concat, keys_declare, List.map_append, List.mem_append, ← ih]
    split
    · next hold =>
      refine ⟨.inl, ?_⟩
      rintro (h | h)
      · exact h
      · obtain rfl := List.mem_singleton.mp h
        exact hold
    · exact List.mem_append

/-- The keys of a table are the declared ones, each counted once. -/
theorem size_ofEntries (declarations : List (κ × String)) :
    (ofEntries entity declarations).size = (declarations.map Prod.fst).toFinset.card := by
  have hkeys : (ofEntries entity declarations).keys.toFinset =
      (declarations.map Prod.fst).toFinset := by
    ext key
    rw [List.mem_toFinset, List.mem_toFinset, mem_keys]
  rw [← hkeys, List.toFinset_card_of_nodup (nodup_keys declarations), keys, List.length_map, size]

theorem isEmpty_ofEntries (declarations : List (κ × String)) :
    (ofEntries entity declarations).isEmpty = true ↔ declarations = [] := by
  have hkeys : (ofEntries entity declarations).keys = [] ↔ declarations.map Prod.fst = [] := by
    simp only [List.eq_nil_iff_forall_not_mem, mem_keys]
  rw [isEmpty, List.isEmpty_iff, ← List.map_eq_nil_iff (f := Prod.fst)]
  exact hkeys.trans List.map_eq_nil_iff

/-! ## Looking up -/

/-- The key has this name in its last declaration. -/
def DeclaredLast (declarations : List (κ × String)) (key : κ) (name : String) : Prop :=
  ∃ before after, declarations = before ++ (key, name) :: after ∧ ∀ later ∈ after, later.1 ≠ key

theorem name?_eq_some_iff (entity : String) {declarations : List (κ × String)} {key : κ}
    {name : String} : (ofEntries entity declarations).name? key = some name ↔
      DeclaredLast declarations key name := by
  rw [name?_ofEntries, Option.map_eq_some_iff]
  simp only [List.getLast?_eq_some_iff]
  constructor
  · rintro ⟨⟨key', name'⟩, ⟨earlier, h⟩, rfl⟩
    -- The list is cut where its declarations of the key but the last end, and again at the last.
    obtain ⟨front, back, rfl, -, hback⟩ := List.filter_eq_append_iff.mp h
    obtain ⟨between, after, rfl, -, hkey, hafter⟩ := List.filter_eq_cons_iff.mp hback
    obtain rfl : key' = key := of_decide_eq_true hkey
    exact ⟨front ++ between, after, (List.append_assoc _ _ _).symm,
      by simpa using hafter⟩
  · rintro ⟨before, after, rfl, hafter⟩
    have hnone : after.filter (·.1 = key) = [] := by simpa using hafter
    exact ⟨(key, name), ⟨before.filter (·.1 = key), by simp [hnone]⟩, rfl⟩

theorem name?_eq_none_iff (entity : String) {declarations : List (κ × String)} {key : κ} :
    (ofEntries entity declarations).name? key = none ↔
      ∀ declaration ∈ declarations, declaration.1 ≠ key := by
  simp [name?_ofEntries]

section Resolve

variable [Describable κ]

theorem resolve_outcome (table : FieldTable κ) (key : κ) : (table.resolve key).outcome =
    match table.name? key with
    | some name => .ok (.name name)
    | none => .error ⟨table.entity, (describe key).render⟩ := by
  unfold resolve
  cases table.name? key <;> rfl

theorem resolve_eq_ok_iff {declarations : List (κ × String)} {key : κ} {path : FieldPath} :
    ((ofEntries entity declarations).resolve key).outcome = .ok path ↔
      ∃ name, DeclaredLast declarations key name ∧ path = .name name := by
  simp only [resolve_outcome, ← name?_eq_some_iff entity]
  cases (ofEntries entity declarations).name? key <;> simp [eq_comm]

theorem resolve_eq_error_iff {declarations : List (κ × String)} {key : κ} {e : FieldError} :
    ((ofEntries entity declarations).resolve key).outcome = .error e ↔
      (∀ declaration ∈ declarations, declaration.1 ≠ key) ∧
        e = ⟨entity, (describe key).render⟩ := by
  rw [resolve_outcome, ← name?_eq_none_iff entity]
  cases (ofEntries entity declarations).name? key <;> simp [eq_comm, ofEntries]

theorem contains_iff_resolve (table : FieldTable κ) (key : κ) :
    table.contains key = true ↔ ∃ path, (table.resolve key).outcome = .ok path := by
  rw [contains, resolve_outcome]
  cases table.name? key <;> simp

end Resolve

/-! ## The order of declarations -/

/-- Both lists declare the same for every key, in the same order. -/
def Rearranged (declarations declarations' : List (κ × String)) : Prop :=
  ∀ key, declarations.filter (·.1 = key) = declarations'.filter (·.1 = key)

/-- Such lists differ in the order of their declarations only. -/
theorem Rearranged.perm {declarations declarations' : List (κ × String)}
    (h : Rearranged declarations declarations') : declarations.Perm declarations' := by
  refine List.perm_iff_count.mpr fun declaration => ?_
  have hcount (ds : List (κ × String)) :
      (ds.filter (·.1 = declaration.1)).count declaration = ds.count declaration :=
    List.count_filter (decide_eq_true rfl)
  rw [← hcount declarations, ← hcount declarations', h declaration.1]

theorem Rearranged.resolve [Describable κ] {declarations declarations' : List (κ × String)}
    (h : Rearranged declarations declarations') (entity : String) (key : κ) :
    (ofEntries entity declarations).resolve key = (ofEntries entity declarations').resolve key := by
  have hname : (ofEntries entity declarations).name? key =
      (ofEntries entity declarations').name? key := by
    rw [name?_ofEntries, name?_ofEntries, h key]
  have hentity : (ofEntries entity declarations).entity =
      (ofEntries entity declarations').entity := rfl
  unfold FieldTable.resolve
  rw [hname, hentity]

theorem Rearranged.size {declarations declarations' : List (κ × String)}
    (h : Rearranged declarations declarations') :
    (ofEntries entity declarations).size = (ofEntries entity declarations').size := by
  rw [size_ofEntries, size_ofEntries, List.toFinset_eq_of_perm _ _ (h.perm.map Prod.fst)]

/-- **A table is a finite map.** A key that is declared has as its path the one segment that its
last declaration gives it, whatever the name holds; any other key is refused under the name of the
entity and with its own description. A table contains the keys that have a path; it counts every
declared key once, and is empty when nothing is declared. Declarations of different keys may change
places. -/
theorem ofEntries_finiteMap [Describable κ] (entity : String) (declarations : List (κ × String)) :
    (∀ key path, ((ofEntries entity declarations).resolve key).outcome = .ok path ↔
        ∃ name, DeclaredLast declarations key name ∧ path.segments = [name]) ∧
      (∀ key e, ((ofEntries entity declarations).resolve key).outcome = .error e ↔
        (∀ declaration ∈ declarations, declaration.1 ≠ key) ∧
          e = ⟨entity, (describe key).render⟩) ∧
      (∀ key, (ofEntries entity declarations).contains key = true ↔
        ∃ path, ((ofEntries entity declarations).resolve key).outcome = .ok path) ∧
      (ofEntries entity declarations).size = (declarations.map Prod.fst).toFinset.card ∧
      ((ofEntries entity declarations).isEmpty = true ↔ declarations = []) ∧
      ∀ declarations', Rearranged declarations declarations' →
        (∀ key, (ofEntries entity declarations').resolve key =
            (ofEntries entity declarations).resolve key ∧
          (ofEntries entity declarations').contains key =
            (ofEntries entity declarations).contains key) ∧
        (ofEntries entity declarations').size = (ofEntries entity declarations).size ∧
        (ofEntries entity declarations').isEmpty = (ofEntries entity declarations).isEmpty := by
  refine ⟨fun key path => ?_, fun key e => resolve_eq_error_iff,
    fun key => contains_iff_resolve _ key, size_ofEntries declarations,
    isEmpty_ofEntries declarations, fun declarations' h => ⟨fun key => ?_, h.size.symm, ?_⟩⟩
  · have hpath (name : String) : path.segments = [name] ↔ path = .name name :=
      FieldPath.segments_injective.eq_iff (b := .name name)
    simp only [resolve_eq_ok_iff, hpath]
  · have hresolve := h.resolve entity key
    refine ⟨hresolve.symm, Bool.eq_iff_iff.mpr ?_⟩
    rw [contains_iff_resolve, contains_iff_resolve, hresolve]
  · rw [Bool.eq_iff_iff, isEmpty_ofEntries, isEmpty_ofEntries]
    exact ⟨fun h' => (h' ▸ h.perm).eq_nil, fun h' => (h' ▸ h.perm).symm.eq_nil⟩

/-- A declaration that is overridden by a later one. -/
def renamed : List (PlatformField × String) :=
  [(.name, "name"), (.id, "id"), (.name, "name.full")]

/-- The same with the key in between moved to the front. -/
def renamedLater : List (PlatformField × String) :=
  [(.id, "id"), (.name, "name"), (.name, "name.full")]

theorem renamed_finiteMap :
    Rearranged renamed renamedLater ∧
      (∀ key, (ofEntries "platforms" renamedLater).resolve key =
        (ofEntries "platforms" renamed).resolve key) ∧
      (∃ path, ((ofEntries "platforms" renamed).resolve .name).outcome = .ok path ∧
        path.segments = ["name.full"]) ∧
      ((ofEntries "platforms" renamed).resolve .slug).outcome = .error ⟨"platforms", "Slug"⟩ := by
  have h : Rearranged renamed renamedLater := fun key => by cases key <;> rfl
  have hlast : DeclaredLast renamed .name "name.full" :=
    ⟨[(.name, "name"), (.id, "id")], [], rfl, fun _ hlater => absurd hlater List.not_mem_nil⟩
  have hmissing : ∀ declaration ∈ renamed, declaration.1 ≠ PlatformField.slug := by decide
  obtain ⟨hok, herror, -, -, -, hrearranged⟩ := ofEntries_finiteMap "platforms" renamed
  exact ⟨h, fun key => ((hrearranged renamedLater h).1 key).1,
    ⟨.name "name.full", (hok _ _).mpr ⟨_, hlast, rfl⟩, rfl⟩, (herror _ _).mpr ⟨hmissing, rfl⟩⟩

end Apicalypse.FieldTable

import Apicalypse.Query.Call

/-!
# Branches

Queries under names. A step changes the query of one name, or puts a clone of it under another
name; the query of a name that has not been used is empty.
-/

namespace Apicalypse.Query

variable {E : Entity}

/-- Queries under names, the latest first. -/
structure Branches (E : Entity) where
  entries : List (String × Query E)

namespace Branches

/-- No name has been used. -/
def empty : Branches E := ⟨[]⟩

/-- The query of a name. -/
def get (branches : Branches E) (name : String) : Query E :=
  ((branches.entries.find? (·.1 = name)).map (·.2)).getD .empty

/-- Puts a query under a name. -/
def set (branches : Branches E) (name : String) (query : Query E) : Branches E :=
  ⟨(name, query) :: branches.entries.filter (·.1 ≠ name)⟩

@[simp] theorem get_set_self (branches : Branches E) (name : String) (query : Query E) :
    (branches.set name query).get name = query := by
  simp [get, set]

@[simp] theorem get_set_of_ne (branches : Branches E) {name other : String} (query : Query E)
    (h : other ≠ name) : (branches.set name query).get other = branches.get other := by
  have hne : ¬ name = other := fun e => h e.symm
  simp only [get, set, List.find?_cons, hne, decide_false, List.find?_filter]
  congr 3
  funext entry
  by_cases he : entry.1 = other <;> simp_all

/-- One step on named queries. -/
inductive Step (E : Entity) where
  /-- Starts the query of a name anew. -/
  | clear (name : String)
  | call (name : String) (call : Call E)
  /-- Puts a clone of the query of the first name under the second. -/
  | fork (source target : String)

/-- The name whose query a step sets. -/
def Step.name : Step E → String
  | clear name | call name _ => name
  | fork _ target => target

/-- The named queries after a step, and the error of a call that failed. -/
def advance (branches : Branches E) : Step E → Logged (Branches E × Option FieldError)
  | .clear name => return (branches.set name .empty, none)
  | .fork source target => return (branches.set target (branches.get source).clone, none)
  | .call name call => do
    let (query, outcome) ← (branches.get name).attempt call
    return (branches.set name query, outcome)

/-- The named queries after several steps, and what became of each of them. -/
def run (branches : Branches E) : List (Step E) → Logged (Branches E × List (Option FieldError))
  | [] => return (branches, [])
  | step :: rest => do
    let (next, outcome) ← branches.advance step
    let (last, outcomes) ← next.run rest
    return (last, outcome :: outcomes)

end Branches

end Apicalypse.Query

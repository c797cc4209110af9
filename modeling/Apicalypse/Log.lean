import Apicalypse.FieldError

/-!
# The log

Computations that record events beside their answer.

* `Event`: a level, the part of the program that speaks, a message and named fields.
* `Logged`: a value with the events recorded on the way, oldest first. `value` forgets the
  record, so a recorded computation answers what the bare one does.
* `Attempt`: a recorded computation that may end in a `FieldError`; the events before the error
  stay recorded.
-/

namespace Apicalypse

/-! ## Events -/

/-- How important an event is, from the least on. -/
inductive Level where
  | trace
  | debug
  | info
  | warn
  | error
  deriving DecidableEq, Repr

namespace Level

/-- The place of a level among the levels. -/
def rank : Level → Nat
  | trace => 0
  | debug => 1
  | info => 2
  | warn => 3
  | error => 4

/-- The level as it stands in a log line. -/
def name : Level → String
  | trace => "TRACE"
  | debug => "DEBUG"
  | info => "INFO"
  | warn => "WARN"
  | error => "ERROR"

end Level

/-- What a field of an event holds. A word is shown as it is, a text between quotes. -/
inductive EventValue where
  | text (content : String)
  | word (content : String)
  | number (value : Nat)
  | boolean (value : Bool)
  deriving DecidableEq, Repr

/-- Something worth recording. -/
structure Event where
  level : Level
  target : String
  message : String
  fields : List (String × EventValue)
  deriving DecidableEq, Repr

/-- The event has a field of the name. Its message is one, too. -/
def Event.hasField (event : Event) (name : String) : Bool :=
  name = "message" || event.fields.any (·.1 = name)

/-! ## Recorded computations -/

/-- A value and the events recorded while it was computed, oldest first. -/
structure Logged (α : Type) where
  value : α
  events : List Event

namespace Logged

/-- A value with nothing recorded. -/
protected def pure (value : α) : Logged α := ⟨value, []⟩

/-- Goes on from a recorded value; its events come first. -/
protected def bind (first : Logged α) (next : α → Logged β) : Logged β :=
  ⟨(next first.value).value, first.events ++ (next first.value).events⟩

instance : Monad Logged where
  pure := Logged.pure
  bind := Logged.bind

instance : LawfulMonad Logged :=
  .mk' Logged
    (fun logged => congrArg (Logged.mk logged.value) (List.append_nil logged.events))
    (fun _ _ => rfl)
    (fun _ _ _ => congrArg (Logged.mk _) (List.append_assoc _ _ _))

/-- Records one event. -/
def record (event : Event) : Logged Unit := ⟨(), [event]⟩

@[simp] theorem value_pure (value : α) : (pure value : Logged α).value = value := rfl

@[simp] theorem events_pure (value : α) : (pure value : Logged α).events = [] := rfl

@[simp] theorem value_bind (first : Logged α) (next : α → Logged β) :
    (first >>= next).value = (next first.value).value := rfl

@[simp] theorem events_bind (first : Logged α) (next : α → Logged β) :
    (first >>= next).events = first.events ++ (next first.value).events := rfl

@[simp] theorem value_map (f : α → β) (logged : Logged α) :
    (f <$> logged).value = f logged.value := rfl

@[simp] theorem events_map (f : α → β) (logged : Logged α) :
    (f <$> logged).events = logged.events :=
  List.append_nil logged.events

@[simp] theorem value_record (event : Event) : (record event).value = () := rfl

@[simp] theorem events_record (event : Event) : (record event).events = [event] := rfl

end Logged

/-- A recorded computation that may fail because a field is not declared. -/
abbrev Attempt (α : Type) : Type := ExceptT FieldError Logged α

namespace Attempt

/-- The answer of a computation, without its record. -/
def outcome (attempt : Attempt α) : Except FieldError α := attempt.run.value

/-- The events of a computation, oldest first. -/
def events (attempt : Attempt α) : List Event := attempt.run.events

/-- Records one event. -/
def record (event : Event) : Attempt Unit := liftM (Logged.record event)

/-- Records an event about the error when the computation fails. -/
def onError (attempt : Attempt α) (event : FieldError → Event) : Attempt α :=
  ExceptT.mk do
    match ← attempt.run with
    | .ok value => pure (.ok value)
    | .error e =>
      Logged.record (event e)
      pure (.error e)

@[simp] theorem outcome_pure (value : α) : outcome (pure value) = pure value := rfl

@[simp] theorem outcome_bind (first : Attempt α) (next : α → Attempt β) :
    outcome (first >>= next) = outcome first >>= fun value => outcome (next value) := by
  rcases first with ⟨value | e, events⟩ <;> rfl

@[simp] theorem outcome_map (f : α → β) (attempt : Attempt α) :
    outcome (f <$> attempt) = f <$> outcome attempt := by
  rcases attempt with ⟨value | e, events⟩ <;> rfl

/-- Recording something about an error changes no answer. -/
@[simp] theorem outcome_onError (attempt : Attempt α) (event : FieldError → Event) :
    outcome (attempt.onError event) = outcome attempt := by
  rcases attempt with ⟨value | e, events⟩ <;> rfl

@[simp] theorem events_pure (value : α) : events (pure value) = [] := rfl

/-- What follows a computation is recorded after it, and only if the computation has not failed. -/
theorem events_bind (first : Attempt α) (next : α → Attempt β) :
    events (first >>= next) = events first ++
      match outcome first with
      | .ok value => events (next value)
      | .error _ => [] := by
  rcases first with ⟨value | e, events⟩ <;> rfl

@[simp] theorem events_map (f : α → β) (attempt : Attempt α) :
    events (f <$> attempt) = events attempt := by
  rcases attempt with ⟨value | e, events⟩ <;> exact List.append_nil events

/-- What is recorded about an error stands after what led to it. -/
theorem events_onError (attempt : Attempt α) (event : FieldError → Event) :
    events (attempt.onError event) = events attempt ++
      match outcome attempt with
      | .ok _ => []
      | .error e => [event e] := by
  rcases attempt with ⟨value | e, events⟩ <;> rfl

end Attempt

end Apicalypse

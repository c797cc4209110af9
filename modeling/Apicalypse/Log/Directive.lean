import Apicalypse.Log
import Apicalypse.Log.FieldCondition
import Apicalypse.Text.Alphanumeric
import Apicalypse.Text.Blank
import Apicalypse.Text.Decimal
import Apicalypse.Text.Slice
import Apicalypse.Text.Split

/-!
# Log directives

Which events are shown. A directive gives the least level for events whose target begins with its
own target, or for all targets, and it may ask for a field. Of several that apply the most
specific one decides.

* `LogDirective.read`: the directive of a text: `level`, `target` or `target=level`, where
  `[{field}]` may follow the target. What concerns spans of time or the values of fields applies
  to no event.
* `LogFilter.read`, `LogFilter.readLossy`: the directives of a text, separated by commas.
* `LogFilter.shows`: an event is shown.
-/

namespace Apicalypse

/-! ## Thresholds -/

/-- A level from which on events are shown, or none at all. -/
abbrev Threshold : Type := Option Level

namespace Threshold

/-- The names of the thresholds. -/
def names : List (String × Threshold) :=
  [("off", none), ("error", some .error), ("warn", some .warn), ("info", some .info),
    ("debug", some .debug), ("trace", some .trace)]

/-- The threshold of a name in any mixture of capital and small letters, or of its place in the
list of names. -/
def parse? (s : String) : Option Threshold :=
  match Text.readWord s with
  | .ok n => names[n.toNat]?.map (·.2)
  | .error _ =>
    let lower := String.ofList (s.toList.map Char.toLower)
    (names.find? (·.1 = lower)).map (·.2)

/-- An event of the level is shown. -/
def admits (threshold : Threshold) (level : Level) : Bool :=
  match threshold with
  | none => false
  | some least => least.rank ≤ level.rank

end Threshold

/-! ## Parts of a directive -/

/-- The parts that are taken from the text of a directive. -/
inductive DirectivePart where
  /-- The target before a threshold. -/
  | target
  /-- The target before an opening bracket. -/
  | openTarget
  /-- The name of a span before a closing bracket. -/
  | span
  /-- The name of a span before a condition. -/
  | openSpan
  | condition
  | threshold
  deriving DecidableEq, Repr

/-- Why a text has no directives. -/
inductive DirectiveFault where
  | malformed
  /-- A part cannot be taken. -/
  | broken (part : DirectivePart) (reason : Text.SliceFault)
  deriving DecidableEq, Repr

/-! ## Directives -/

/-- The least level of some events. -/
structure LogDirective where
  /-- What the targets begin with. -/
  target : String
  /-- A field that the events have. -/
  field : Option String
  threshold : Threshold
  deriving DecidableEq, Repr

namespace LogDirective

/-- Takes a part of the text of a directive, between two byte positions. -/
def take (part : DirectivePart) (text : List Char) (start stop : Nat) :
    Except DirectiveFault (List Char) :=
  (Text.slice text start stop).mapError (.broken part)

/-- The threshold after an equals sign; without one everything is shown. -/
def readThreshold (cs : List Char) : Except DirectiveFault Threshold :=
  if cs.isEmpty then .ok (some .trace)
  else match Threshold.parse? (String.ofList cs) with
    | some threshold => .ok threshold
    | none => .error .malformed

/-- The directive of a text that is a threshold or else a target. -/
def ofSingle (cs : List Char) : LogDirective :=
  match Threshold.parse? (String.ofList cs) with
  | some threshold => ⟨"", none, threshold⟩
  | none => ⟨String.ofList cs, none, some .trace⟩

/-- The threshold that ends a directive: nothing more, or an equals sign and the rest. `position`
is the one of the ending in the text. -/
def readEnding (text : List Char) (position : Nat) : List Char → Except DirectiveFault Threshold
  | [] => .ok (some .trace)
  | '=' :: _ => do
    readThreshold (← take .threshold text (position + 1) (Text.byteLength text))
  | _ => .error .malformed

/-- A condition on a field, and what follows its closing brace. -/
def readCondition (text : List Char) (position : Nat) (cs : List Char) :
    Except DirectiveFault (FieldCondition × Nat × List Char) := do
  let inside := cs.takeWhile (· ≠ '\x7d')
  let next := position + Text.byteLength inside
  match cs.dropWhile (· ≠ '\x7d') with
  | '\x7d' :: ']' :: rest =>
    let condition ← take .condition text position next
    if condition.isEmpty then throw .malformed
    match FieldCondition.parse? condition with
    | some condition => return (condition, next + 2, rest)
    | none => throw .malformed
  | [] => throw .malformed
  | _ =>
    discard (take .condition text position next)
    throw .malformed

/-- The directive with what stands after an opening bracket: the name of a span, or a condition on
a field in braces, or both. -/
def readBracket (text : List Char) (target : String) (position : Nat) (cs : List Char) :
    Except DirectiveFault (Option LogDirective) := do
  let span := cs.takeWhile fun c => c ≠ ']' ∧ c ≠ '\x7b'
  let next := position + Text.byteLength span
  match cs.dropWhile fun c => c ≠ ']' ∧ c ≠ '\x7b' with
  | [] => throw .malformed
  | bound :: rest =>
    if bound = ']' then
      discard (take .span text position next)
      discard (readEnding text (next + 1) rest)
      return none
    else
      let span ← take .openSpan text position next
      let (condition, next, rest) ← readCondition text (next + 1) rest
      let threshold ← readEnding text next rest
      match condition with
      | .present field => return if span.isEmpty then some ⟨target, field, threshold⟩ else none
      | .valued _ => return none

/-- A character that a target may start with. -/
def startsTarget (c : Char) : Bool := c ∈ ['-', ':', '_'] || Text.isAlphanumeric c

/-- The directive of a text, or none when it applies to no event. The blanks around the text are
passed over, but a part of it is taken from as many bytes after its start as it is from the start
of what the blanks surround. -/
def read (text : List Char) : Except DirectiveFault (Option LogDirective) :=
  match Text.trim text with
  | [] => .error .malformed
  | '[' :: rest => readBracket text "" 1 rest
  | first :: rest =>
    if startsTarget first then
      let target := first :: rest.takeWhile fun c => c ≠ '=' ∧ c ≠ '['
      let position := Text.byteLength target
      match rest.dropWhile fun c => c ≠ '=' ∧ c ≠ '[' with
      | [] => .ok (some (ofSingle text))
      | bound :: rest =>
        if bound = '=' then do
          let target ← take .target text 0 position
          return some ⟨String.ofList target, none, ← readEnding text position (bound :: rest)⟩
        else do
          let target ← take .openTarget text 0 position
          readBracket text (String.ofList target) (position + 1) rest
    else .error .malformed

/-- The directive applies to an event. -/
def appliesTo (directive : LogDirective) (event : Event) : Bool :=
  event.target.startsWith directive.target && directive.field.all event.hasField

/-- The first directive is at least as specific as the second, when both apply to the same event:
by the length of the target, then by asking for a field, and of two fields by the later name. -/
def isAsSpecificAs (first second : LogDirective) : Bool :=
  second.target.length < first.target.length ||
    (second.target.length = first.target.length &&
      match first.field, second.field with
      | _, none => true
      | none, some _ => false
      | some first, some second => !decide (first < second))

end LogDirective

/-! ## Filters -/

/-- Which events are shown. -/
structure LogFilter where
  directives : List LogDirective
  deriving DecidableEq, Repr

namespace LogFilter

/-- The texts between the commas, without those that are empty. -/
def parts (s : String) : List (List Char) := (Text.split ',' s.toList).filter (!·.isEmpty)

/-- The filter of a text. -/
def read (s : String) : Except DirectiveFault LogFilter := do
  return ⟨(← (parts s).mapM LogDirective.read).filterMap id⟩

/-- The filter of the directives of a text that have no fault. -/
def readLossy (s : String) : LogFilter :=
  ⟨(parts s).filterMap fun part => (LogDirective.read part).toOption.join⟩

/-- The better one of two directives for an event, the later one when both are as good. -/
def prefer (event : Event) (best : Option LogDirective) (next : LogDirective) :
    Option LogDirective :=
  if next.appliesTo event && best.all next.isAsSpecificAs then some next else best

/-- The threshold for an event. Without any directive that applies nothing is shown. -/
def threshold (filter : LogFilter) (event : Event) : Threshold :=
  match filter.directives.foldl (prefer event) none with
  | none => none
  | some directive => directive.threshold

/-- The event is shown. -/
def shows (filter : LogFilter) (event : Event) : Bool :=
  (filter.threshold event).admits event.level

end LogFilter

end Apicalypse

import Apicalypse.Program
import Apicalypse.Proofs.Log.Directive
import Apicalypse.Proofs.Rendering
import Apicalypse.Proofs.Text.Separated
import Mathlib.Data.List.Basic

/-!
# Runs of the program

How a run ends once its words are a command line, as far as no environment file comes in. The
libraries are arbitrary: the reading of the directives may break off wherever it likes.

* `Environment.without`: an environment without a variable; `get?_without_self`,
  `get?_without_of_ne`: what is found in it.
* `Program.FilterFault`: what can be wrong with the file of a filter.
* `Program.BreaksOff`: the directives in the environment cannot be read to the end.
* `Program.run_value`, `Program.run_cases`: how a run ends, as an equation and case by case.
* `Program.run_outcomes`: what a run writes, when and why it fails, and that faulty settings are as
  good as none.
* `Program.strayBlank_not_run_outcomes`: a variable that has nothing to do with the query can make
  a run fail; `Program.run_exitCode_ne_zero_iff_of_uncut`: under which conditions it cannot.
-/

namespace Apicalypse

/-! ## Environments without a variable -/

namespace Environment

/-- The variables that the name does not fit. -/
def without (environment : Environment) (name : String) : Environment :=
  ⟨environment.entries.filter fun entry =>
    ((name.toList ++ ['=']).isPrefixOf? (written entry)).isNone⟩

theorem get?_without_self (environment : Environment) (name : String) :
    (environment.without name).get? name = none := by
  unfold get? without
  split
  · rfl
  · rw [List.findSome?_eq_none_iff]
    intro entry hentry
    rw [Option.map_eq_none_iff, ← Option.isNone_iff_eq_none]
    exact (List.mem_filter.mp hentry).2

/-- Two names without an equals sign do not fit the same variable. -/
theorem eq_of_isPrefixOf? {name other : String} (hname : '=' ∉ name.toList)
    (hother : '=' ∉ other.toList) {cs rest rest' : List Char}
    (h : (name.toList ++ ['=']).isPrefixOf? cs = some rest)
    (h' : (other.toList ++ ['=']).isPrefixOf? cs = some rest') : name = other := by
  rw [List.isPrefixOf?_eq_some_iff_append_eq, List.append_assoc] at h h'
  have heq : name.toList ++ '=' :: rest = other.toList ++ '=' :: rest' := h.trans h'.symm
  obtain ⟨htoList, -, -⟩ := Text.append_cons_inj (p := (· = '='))
    (fun _ hc e => hname (e ▸ hc)) (fun _ hc e => hother (e ▸ hc)) rfl rfl heq
  exact String.toList_inj.mp htoList

theorem get?_without_of_ne {name other : String} (hne : name ≠ other)
    (hname : '=' ∉ name.toList) (hother : '=' ∉ other.toList) (environment : Environment) :
    (environment.without name).get? other = environment.get? other := by
  unfold get? without
  split
  · rfl
  · induction environment.entries with
    | nil => rfl
    | cons entry rest ih =>
      cases hfits : (name.toList ++ ['=']).isPrefixOf? (written entry) with
      | none => simp only [List.filter_cons, hfits, Option.isNone_none, if_true,
          List.findSome?_cons, ih]
      | some value =>
        have hunfit : (other.toList ++ ['=']).isPrefixOf? (written entry) = none := by
          cases hother' : (other.toList ++ ['=']).isPrefixOf? (written entry) with
          | none => rfl
          | some value' => exact absurd (eq_of_isPrefixOf? hname hother hfits hother') hne
        simp [hfits, hunfit, ih]

end Environment

/-- The same surroundings without the two variables of the settings. -/
def Surroundings.withoutSettings (around : Surroundings) : Surroundings :=
  { around with
    environment := (around.environment.without Settings.tierKey).without Settings.limitKey }

namespace Program

/-! ## Settings -/

/-- The settings that are looked up, or the default ones when those are faulty. -/
def settingsOf (lookup : String → Option String) : Settings :=
  (Settings.lookup lookup).toOption.getD default

theorem loadSettings_value (lookup : String → Option String) :
    (loadSettings lookup).value = settingsOf lookup := by
  unfold loadSettings settingsOf
  cases Settings.lookup lookup <;> rfl

theorem settingsOf_of_error {lookup : String → Option String} {problem : Settings.Problem}
    (h : Settings.lookup lookup = .error problem) : settingsOf lookup = default := by
  rw [settingsOf, h]
  rfl

theorem settingsOf_of_none {lookup : String → Option String}
    (htier : lookup Settings.tierKey = none) (hlimit : lookup Settings.limitKey = none) :
    settingsOf lookup = default := by
  simp only [settingsOf, Settings.lookup, Settings.lookupTier, Settings.lookupLimit, htier, hlimit]
  rfl

theorem settingsOf_withoutSettings (around : Surroundings) :
    settingsOf around.withoutSettings.environment.get? = default := by
  refine settingsOf_of_none ?_ (Environment.get?_without_self _ _)
  rw [Surroundings.withoutSettings, Environment.get?_without_of_ne (by decide) (by decide)
    (by decide), Environment.get?_without_self]

theorem get?_logKey_withoutSettings (around : Surroundings) :
    around.withoutSettings.environment.get? logKey = around.environment.get? logKey := by
  rw [Surroundings.withoutSettings, Environment.get?_without_of_ne (by decide) (by decide)
    (by decide), Environment.get?_without_of_ne (by decide) (by decide) (by decide)]

/-! ## The file of the filter -/

/-- The file of a filter cannot be read, or its text is no filter. -/
inductive FilterFault (around : Surroundings) (path : String) : RunError → Prop
  | unreadable {reason : FileFailure} (h : around.textAt path = .error reason) :
      FilterFault around path (.unreadable path reason)
  | badDocument {text : String} {reason : DocumentError} (htext : around.textAt path = .ok text)
      (h : FilterDocument.parseFilter text = .error reason) :
      FilterFault around path (.badDocument path reason)

theorem readFilter_eq_error_iff (around : Surroundings) (path : String) (e : RunError) :
    readFilter around path = .error e ↔ FilterFault around path e := by
  unfold readFilter
  constructor
  · intro h
    cases htext : around.textAt path with
    | error reason =>
      obtain rfl : RunError.unreadable path reason = e := by
        simpa [htext, bind, Except.bind, Except.mapError] using h
      exact .unreadable htext
    | ok text =>
      cases hfilter : FilterDocument.parseFilter text with
      | error reason =>
        obtain rfl : RunError.badDocument path reason = e := by
          simpa [htext, hfilter, bind, Except.bind, Except.mapError] using h
        exact .badDocument htext hfilter
      | ok filter => simp [htext, hfilter, bind, Except.bind, Except.mapError] at h
  · intro h
    cases h with
    | unreadable h => simp [h, bind, Except.bind, Except.mapError]
    | badDocument htext h => simp [htext, h, bind, Except.bind, Except.mapError]

theorem readFilter?_eq_error_iff (around : Surroundings) (file : Option String) (e : RunError) :
    readFilter? around file = .error e ↔ ∃ path ∈ file, FilterFault around path e := by
  cases file with
  | none => simp [readFilter?]
  | some path =>
    rw [readFilter?]
    simp only [Option.mem_some_iff, exists_eq_left', ← readFilter_eq_error_iff]
    cases readFilter around path <;> simp [Functor.map, Except.map]

theorem not_filterFault_of_readFilter? {around : Surroundings} {file : Option String}
    {filter : Option Filter} (h : readFilter? around file = .ok filter) :
    ∀ path ∈ file, ∀ e, ¬ FilterFault around path e := by
  intro path hpath e hfault
  cases h.symm.trans ((readFilter?_eq_error_iff around file e).mpr ⟨path, hpath, hfault⟩)

/-! ## Directives -/

/-- The reading of the directives in the environment breaks off. -/
def BreaksOff (libraries : Libraries) (around : Surroundings) (panic : Panic) : Prop :=
  ∃ text ∈ around.environment.get? logKey, libraries.readFilter text = .error (.panicked panic)

theorem shown_eq_error_iff (libraries : Libraries) (around : Surroundings) (panic : Panic) :
    shown libraries (around.environment.get? logKey) = .error panic ↔
      BreaksOff libraries around panic := by
  unfold BreaksOff shown
  cases around.environment.get? logKey with
  | none => simp
  | some text =>
    simp only [Option.mem_some_iff, exists_eq_left']
    cases libraries.readFilter text with
    | ok shows => simp
    | error e => cases e <;> simp

theorem not_breaksOff_of_shown {libraries : Libraries} {around : Surroundings}
    {shows : Event → Bool}
    (h : shown libraries (around.environment.get? logKey) = .ok shows) (panic : Panic) :
    ¬ BreaksOff libraries around panic := by
  rw [← shown_eq_error_iff, h]
  exact nofun

/-! ## Endings -/

section Run

variable {libraries : Libraries} {around : Surroundings} {words : List String} {line : CommandLine}

theorem run_value (libraries : Libraries) (hparse : CommandLine.parse words = .ok line)
    (hfile : around.environmentFile = none) : (run libraries around words).value =
      match shown libraries (around.environment.get? logKey) with
      | .error panic => .aborted panic
      | .ok _ =>
        match readFilter? around line.whereFile with
        | .error e => .failure e
        | .ok filter =>
          match (line.render filter (settingsOf around.environment.get?)).value with
          | .error e => .failure (.unrenderable e)
          | .ok text => .success text := by
  have hloaded : around.loaded libraries = .ok around.environment := by
    rw [Surroundings.loaded, hfile]
  rw [run, hparse]
  simp only [hloaded]
  cases shown libraries (around.environment.get? logKey) with
  | error panic => rfl
  | ok shows =>
    simp only [perform, Logged.value_bind, loadSettings_value]
    cases readFilter? around line.whereFile with
    | error e => rfl
    | ok filter =>
      simp only [Logged.value_bind]
      cases (line.render filter (settingsOf around.environment.get?)).value <;> rfl

/-- **The four ends of a run.** The variable that says which events are shown is looked at first,
then the file of the filter, then whether the endpoint has a search. -/
theorem run_cases (libraries : Libraries) (hparse : CommandLine.parse words = .ok line)
    (hfile : around.environmentFile = none) :
    (∃ panic, BreaksOff libraries around panic ∧
        (run libraries around words).value = .aborted panic) ∨
      (∀ panic, ¬ BreaksOff libraries around panic) ∧
        ((∃ e, readFilter? around line.whereFile = .error e ∧
            (run libraries around words).value = .failure e) ∨
          ∃ filter, readFilter? around line.whereFile = .ok filter ∧
            (line.Refused ∧ (run libraries around words).value =
                .failure (.unrenderable (.searchUnsupported .releaseDates)) ∨
              ¬ line.Refused ∧ ∃ text,
                (line.render filter (settingsOf around.environment.get?)).value = .ok text ∧
                (run libraries around words).value = .success text)) := by
  rw [run_value libraries hparse hfile]
  cases hshown : shown libraries (around.environment.get? logKey) with
  | error panic => exact .inl ⟨panic, (shown_eq_error_iff ..).mp hshown, rfl⟩
  | ok shows =>
    refine .inr ⟨not_breaksOff_of_shown hshown, ?_⟩
    cases readFilter? around line.whereFile with
    | error e => exact .inl ⟨e, rfl, rfl⟩
    | ok filter =>
      refine .inr ⟨filter, rfl, ?_⟩
      by_cases hr : line.Refused
      · have hrender := congrArg Logged.value (CommandLine.render_of_refused hr filter
          (settingsOf around.environment.get?))
        exact .inl ⟨hr, by simp [hrender]⟩
      · have hrender := congrArg Logged.value (CommandLine.render_of_not_refused hr filter
          (settingsOf around.environment.get?))
        exact .inr ⟨hr, _, hrender, by simp only [hrender]⟩

theorem run_withoutSettings (libraries : Libraries) (hparse : CommandLine.parse words = .ok line)
    (hfile : around.environmentFile = none) {problem : Settings.Problem}
    (h : Settings.lookup around.environment.get? = .error problem) :
    (run libraries around words).value = (run libraries around.withoutSettings words).value := by
  have hfile' : around.withoutSettings.environmentFile = none := hfile
  have hread : readFilter? around.withoutSettings line.whereFile =
      readFilter? around line.whereFile := rfl
  rw [run_value libraries hparse hfile, run_value libraries hparse hfile',
    get?_logKey_withoutSettings, settingsOf_withoutSettings, settingsOf_of_error h, hread]

theorem run_output (libraries : Libraries) (hparse : CommandLine.parse words = .ok line)
    (hfile : around.environmentFile = none) :
    (∃ filter text, readFilter? around line.whereFile = .ok filter ∧
        (line.render filter (settingsOf around.environment.get?)).value = .ok text ∧
        (run libraries around words).value.output = text ++ "\n" ∧
        (run libraries around words).value.exitCode = 0) ∨
      (run libraries around words).value.output = "" ∧
        (run libraries around words).value.exitCode ≠ 0 := by
  rcases run_cases libraries hparse hfile with ⟨panic, -, hend⟩ |
    ⟨-, ⟨e, -, hend⟩ | ⟨filter, hread, ⟨-, hend⟩ | ⟨-, text, hrender, hend⟩⟩⟩
  · exact .inr (by simp [hend, Ending.output, Ending.exitCode])
  · exact .inr (by simp [hend, Ending.output, Ending.exitCode])
  · exact .inr (by simp [hend, Ending.output, Ending.exitCode])
  · exact .inl ⟨filter, text, hread, hrender, by simp [hend, Ending.output, Ending.exitCode]⟩

theorem run_exitCode_ne_zero_iff (libraries : Libraries)
    (hparse : CommandLine.parse words = .ok line) (hfile : around.environmentFile = none) :
    (run libraries around words).value.exitCode ≠ 0 ↔
      (∃ panic, BreaksOff libraries around panic) ∨
        (∃ path ∈ line.whereFile, ∃ e, FilterFault around path e) ∨ line.Refused := by
  rcases run_cases libraries hparse hfile with ⟨panic, hbreak, hend⟩ |
    ⟨hread, ⟨e, hfilter, hend⟩ | ⟨filter, hfilter, ⟨hr, hend⟩ | ⟨hr, text, -, hend⟩⟩⟩
  · exact iff_of_true (by simp [hend, Ending.exitCode]) (.inl ⟨panic, hbreak⟩)
  · obtain ⟨path, hpath, hfault⟩ := (readFilter?_eq_error_iff around line.whereFile e).mp hfilter
    exact iff_of_true (by simp [hend, Ending.exitCode]) (.inr (.inl ⟨path, hpath, e, hfault⟩))
  · exact iff_of_true (by simp [hend, Ending.exitCode]) (.inr (.inr hr))
  · refine iff_of_false (by simp [hend, Ending.exitCode]) ?_
    rintro (⟨panic, hbreak⟩ | ⟨path, hpath, e, hfault⟩ | h)
    · exact hread panic hbreak
    · exact not_filterFault_of_readFilter? hfilter path hpath e hfault
    · exact hr h

theorem run_eq_aborted_iff (libraries : Libraries) (hparse : CommandLine.parse words = .ok line)
    (hfile : around.environmentFile = none) (panic : Panic) :
    (run libraries around words).value = .aborted panic ↔ BreaksOff libraries around panic := by
  rw [← shown_eq_error_iff]
  cases hshown : shown libraries (around.environment.get? logKey) with
  | error panic' => rw [run_value libraries hparse hfile, hshown]; simp
  | ok shows =>
    refine iff_of_false ?_ nofun
    rcases run_cases libraries hparse hfile with ⟨panic', hbreak, -⟩ |
      ⟨-, ⟨e, -, hend⟩ | ⟨filter, -, ⟨-, hend⟩ | ⟨-, text, -, hend⟩⟩⟩
    · exact absurd hbreak (not_breaksOff_of_shown hshown panic')
    all_goals rw [hend]; exact nofun

theorem run_eq_failure_iff (libraries : Libraries) (hparse : CommandLine.parse words = .ok line)
    (hfile : around.environmentFile = none) (e : RunError) :
    (run libraries around words).value = .failure e ↔
      (∀ panic, ¬ BreaksOff libraries around panic) ∧
        ((∃ path ∈ line.whereFile, FilterFault around path e) ∨
          (∀ path ∈ line.whereFile, ∀ e', ¬ FilterFault around path e') ∧ line.Refused ∧
            e = .unrenderable (.searchUnsupported .releaseDates)) := by
  rw [← readFilter?_eq_error_iff]
  rcases run_cases libraries hparse hfile with ⟨panic, hbreak, hend⟩ |
    ⟨hread, ⟨e', hfilter, hend⟩ | ⟨filter, hfilter, ⟨hr, hend⟩ | ⟨hr, text, -, hend⟩⟩⟩
  · rw [hend]
    exact iff_of_false nofun fun h => h.1 panic hbreak
  · obtain ⟨path, hpath, hfault⟩ := (readFilter?_eq_error_iff around line.whereFile e').mp hfilter
    rw [hend, hfilter]
    constructor
    · rintro ⟨⟩
      exact ⟨hread, .inl rfl⟩
    · rintro ⟨-, ⟨⟨⟩⟩ | ⟨hsound, -⟩⟩
      · rfl
      · exact absurd hfault (hsound path hpath e')
  · have hsound := not_filterFault_of_readFilter? hfilter
    rw [hend, hfilter]
    constructor
    · rintro ⟨⟩
      exact ⟨hread, .inr ⟨hsound, hr, rfl⟩⟩
    · rintro ⟨-, ⟨⟨⟩⟩ | ⟨-, -, rfl⟩⟩
      rfl
  · simp [hend, hfilter, hr]

/-- **What comes of a run.** Whatever the libraries do, either the rendered query and a line break
are written and the run succeeds, or nothing is written and it fails. It fails when the directives
in the environment cannot be read to the end, when the file of the filter cannot be read or is no
filter, or when release dates are searched; they are looked at in this order, and the first of them
is what is reported. Directives that are merely malformed change nothing. Settings of which one is
faulty are as good as none at all. -/
theorem run_outcomes (libraries : Libraries) (hparse : CommandLine.parse words = .ok line)
    (hfile : around.environmentFile = none) :
    ((∃ filter text, readFilter? around line.whereFile = .ok filter ∧
          (line.render filter (settingsOf around.environment.get?)).value = .ok text ∧
          (run libraries around words).value.output = text ++ "\n" ∧
          (run libraries around words).value.exitCode = 0) ∨
        (run libraries around words).value.output = "" ∧
          (run libraries around words).value.exitCode ≠ 0) ∧
      ((run libraries around words).value.exitCode ≠ 0 ↔
        (∃ panic, BreaksOff libraries around panic) ∨
          (∃ path ∈ line.whereFile, ∃ e, FilterFault around path e) ∨
          line.endpoint = .releaseDates ∧ line.search.isSome = true) ∧
      (∀ panic, (run libraries around words).value = .aborted panic ↔
        BreaksOff libraries around panic) ∧
      (∀ e, (run libraries around words).value = .failure e ↔
        (∀ panic, ¬ BreaksOff libraries around panic) ∧
          ((∃ path ∈ line.whereFile, FilterFault around path e) ∨
            (∀ path ∈ line.whereFile, ∀ e', ¬ FilterFault around path e') ∧
              (line.endpoint = .releaseDates ∧ line.search.isSome = true) ∧
              e = .unrenderable (.searchUnsupported .releaseDates))) ∧
      ∀ problem, Settings.lookup around.environment.get? = .error problem →
        (run libraries around words).value = (run libraries around.withoutSettings words).value :=
  ⟨run_output libraries hparse hfile, run_exitCode_ne_zero_iff libraries hparse hfile,
    run_eq_aborted_iff libraries hparse hfile, run_eq_failure_iff libraries hparse hfile,
    fun _ => run_withoutSettings libraries hparse hfile⟩

/-- Directives of which none has both a blank before it and a character outside of ASCII have no
part in the failures of a run. -/
theorem run_exitCode_ne_zero_iff_of_uncut (sources : Sources)
    (hparse : CommandLine.parse words = .ok line) (hfile : around.environmentFile = none)
    (huncut : ∀ text ∈ around.environment.get? logKey,
      ∀ directive ∈ Text.split ',' text.toList, LogDirective.Uncut directive) :
    (run (.ofSources sources) around words).value.exitCode ≠ 0 ↔
      (∃ path ∈ line.whereFile, ∃ e, FilterFault around path e) ∨ line.Refused := by
  have hread : ¬ ∃ panic, BreaksOff (.ofSources sources) around panic := by
    rintro ⟨panic, text, htext, hbreak⟩
    exact Libraries.readFilter_ne_panicked sources (huncut text htext) panic hbreak
  rw [run_exitCode_ne_zero_iff _ hparse hfile, or_iff_right hread]

end Run

/-- A tier that does not exist beside a limit, and no files. -/
def unsettled : Surroundings where
  environment := ⟨[("APICALYPSE_TIER", "gold"), ("APICALYPSE_DEFAULT_LIMIT", "7")]⟩
  environmentFile := none
  fileAt := fun _ => .error .notFound

/-- A search where there is none, with a filter in a file. -/
def hopeless : List String := ["release-dates", "--search", "x", "--where-file", "missing.json"]

/-- The command line that `hopeless` writes. -/
def hopelessLine : CommandLine where
  endpoint := .releaseDates
  fields := []
  exclude := []
  sort := none
  whereFile := some "missing.json"
  search := some "x"
  limit := none
  offset := none

/-- Libraries whose reports name the functions that break off. -/
def named : Libraries := .ofSources ⟨fun _ => "LogDirective.take", "Environment.define?"⟩

theorem unsettled_run_outcomes :
    CommandLine.parse hopeless = .ok hopelessLine ∧ unsettled.environmentFile = none ∧
      (run named unsettled hopeless).value = .failure (.unreadable "missing.json" .notFound) ∧
      (run named unsettled hopeless).value.exitCode ≠ 0 ∧
      Settings.lookup unsettled.environment.get? = .error (.unknownTier "gold") ∧
      (run named unsettled.withoutSettings hopeless).value =
        (run named unsettled hopeless).value := by
  have hparse : CommandLine.parse hopeless = .ok hopelessLine := by decide +kernel
  have hlookup : Settings.lookup unsettled.environment.get? = .error (.unknownTier "gold") := by
    decide +kernel
  have hfault : FilterFault unsettled "missing.json" (.unreadable "missing.json" .notFound) :=
    .unreadable rfl
  have hunset : unsettled.environment.get? logKey = none := by decide +kernel
  have hread (panic : Panic) : ¬ BreaksOff named unsettled panic := by
    rintro ⟨text, htext, -⟩
    rw [hunset] at htext
    cases htext
  obtain ⟨-, hexit, -, hfailure, hsettings⟩ :=
    run_outcomes named hparse (rfl : unsettled.environmentFile = none)
  exact ⟨hparse, rfl, (hfailure _).mpr ⟨hread, .inl ⟨_, rfl, hfault⟩⟩,
    hexit.mpr (.inr (.inl ⟨_, rfl, _, hfault⟩)), hlookup, (hsettings _ hlookup).symm⟩

/-- A blank before the target of the events that are shown, and no files. -/
def strayBlank : Surroundings where
  environment := ⟨[("RUST_LOG", " é=info")]⟩
  environmentFile := none
  fileAt := fun _ => .error .notFound

/-- A command line without a file and without a search. -/
def modest : List String := ["games", "--limit", "10"]

/-- The command line that `modest` writes. -/
def modestLine : CommandLine where
  endpoint := .games
  fields := []
  exclude := []
  sort := none
  whereFile := none
  search := none
  limit := some 10
  offset := none

/-- The report of the run. -/
def strayPanic : Panic where
  place := "LogDirective.take"
  reason := "end byte index 2 is not a char boundary; it is inside 'é' (bytes 1..3 of string)"

/-- Not every failure comes from the file of the filter or from the search: the directives may cut a
character in two. -/
theorem strayBlank_not_run_outcomes :
    ¬ ∀ (around : Surroundings) (words : List String) (line : CommandLine),
      CommandLine.parse words = .ok line → around.environmentFile = none →
      ((run named around words).value.exitCode ≠ 0 ↔
        (∃ path ∈ line.whereFile, ∃ e, FilterFault around path e) ∨
          line.endpoint = .releaseDates ∧ line.search.isSome = true) := by
  intro h
  have hparse : CommandLine.parse modest = .ok modestLine := by decide +kernel
  have hread : LogFilter.read " é=info" = .error (.broken .target (.inside .stop 2 'é' 1)) := by
    decide +kernel
  have hreason : (Text.SliceFault.inside .stop 2 'é' 1).message = strayPanic.reason := by
    decide +kernel
  have hbreak : BreaksOff named strayBlank strayPanic := by
    refine ⟨" é=info", by decide +kernel, ?_⟩
    simp only [named, Libraries.ofSources, hread, hreason]
    rfl
  have hend : (run named strayBlank modest).value.exitCode ≠ 0 :=
    (run_exitCode_ne_zero_iff named hparse rfl).mpr (.inl ⟨_, hbreak⟩)
  rcases (h strayBlank modest modestLine hparse rfl).mp hend with ⟨path, hpath, -⟩ | ⟨hendpoint, -⟩
  · cases hpath
  · cases hendpoint

end Program

end Apicalypse

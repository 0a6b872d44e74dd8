import TermTape.Device.Child
import TermTape.Proofs.Session.RecordedTime

/-!
# The command that runs

A command is asked for by an override, a variable of the process or the settings, and the first of
these places that has a text decides, also when the text is blank. A command that is blank gives way to
the shell of the user, and a shell without a name to the one that is always there (`runs_iff`). The
shell of the user only has to be a text that is not empty: a blank one is started and recorded, and
this is the one way to a blank command (`blank_command_iff`).
-/
namespace TermTape

/-! ## Blank texts and empty ones -/

/-- The text has nothing but blank characters; the empty text has not even these. -/
def AllBlank (text : String) : Prop := ∀ c ∈ text.toList, isBlank c = true

private theorem isBlankText_iff {text : String} :
    isBlankText text = true ↔ AllBlank text := List.all_eq_true

private theorem not_isBlankText_iff {text : String} :
    (!isBlankText text) = true ↔ ¬ AllBlank text := by
  rw [Bool.not_eq_true', ← Bool.not_eq_true, isBlankText_iff]

/-- If what is found is what is there and not of some kind, nothing is found exactly if all that is
there is of that kind. -/
theorem eq_none_iff_of_eq_some_iff {α : Type} {found : Option α} {There OfKind : α → Prop}
    (some_iff : ∀ a, found = some a ↔ There a ∧ ¬ OfKind a) :
    found = none ↔ ∀ a, There a → OfKind a := by
  rw [Option.eq_none_iff_forall_ne_some]
  refine forall_congr' fun a => ?_
  rw [Ne, some_iff, not_and, Classical.not_not]

namespace Variables

variable {process : Variables}

private theorem shell?_eq_some_iff (shell : String) :
    process.shell? = some shell ↔ process.value? "SHELL" = some shell ∧ shell ≠ "" := by
  rw [shell?, filled?, Option.filter_eq_some_iff, Bool.not_eq_true', ← Bool.not_eq_true,
    String.isEmpty_iff]

private theorem shell?_eq_none_iff :
    process.shell? = none ↔ ∀ shell, process.value? "SHELL" = some shell → shell = "" :=
  eq_none_iff_of_eq_some_iff shell?_eq_some_iff

end Variables

namespace RecordSettings

/-! ## Where the command comes from -/

section

variable (settings : RecordSettings) (family : SettingFamily) (process : Variables)

/-- The command that is asked for once the variables of a family replace the settings. An override
hides the variable of the process, and that hides the settings. -/
inductive Asks (command : String) : Prop where
  | overridden (found : family.overrides.lookup (family.variableOf "COMMAND") = some command)
  | ofProcess (free : family.overrides.lookup (family.variableOf "COMMAND") = none)
      (found : process.value? (family.variableOf "COMMAND") = some command)
  | given (free : family.overrides.lookup (family.variableOf "COMMAND") = none)
      (unset : process.value? (family.variableOf "COMMAND") = none)
      (found : settings.command = some command)

/-- The command that runs: the one that is asked for, unless it is blank; then the shell of the user,
unless it is empty; then the shell that is always there. -/
inductive Runs : String → Prop where
  | asked {command : String} (asks : settings.Asks family process command)
      (filled : ¬ AllBlank command) : Runs command
  | shell {shell : String} (blank : ∀ asked, settings.Asks family process asked → AllBlank asked)
      (found : process.value? "SHELL" = some shell) (filled : shell ≠ "") : Runs shell
  | fallback (blank : ∀ asked, settings.Asks family process asked → AllBlank asked)
      (unset : ∀ shell, process.value? "SHELL" = some shell → shell = "") : Runs fallbackShell

end

variable {settings result : RecordSettings} {family : SettingFamily} {process : Variables}
  {command : String}

private theorem command_of_applied (applied : settings.applied family process = .ok result) :
    result.command = (family.text? process "COMMAND").orElse fun _ => settings.command := by
  rw [RecordSettings.applied] at applied
  cases wait : family.seconds? process "MAX_WAIT" with
  | error fault =>
    rw [wait] at applied
    cases applied
  | ok maxWait =>
    rw [wait] at applied
    cases applied
    rfl

/-- The settings with the variables in them hold the command that is asked for. -/
theorem asks_iff (applied : settings.applied family process = .ok result) :
    settings.Asks family process command ↔ result.command = some command := by
  rw [command_of_applied applied, SettingFamily.text?]
  constructor
  · rintro (found | ⟨free, found⟩ | ⟨free, unset, found⟩)
    · rw [found]
      rfl
    · rw [free, found]
      rfl
    · rw [free, unset, found]
      rfl
  · intro found
    -- The places in the order in which they hide each other.
    cases override : family.overrides.lookup (family.variableOf "COMMAND") with
    | some text =>
      rw [override] at found
      exact .overridden (override.trans found)
    | none =>
      rw [override] at found
      cases value : process.value? (family.variableOf "COMMAND") with
      | some text =>
        rw [value] at found
        exact .ofProcess override (value.trans found)
      | none =>
        rw [value] at found
        exact .given override value found

/-- What the settings have left to run: a command that is asked for and not blank. -/
theorem filled_eq_some_iff (applied : settings.applied family process = .ok result)
    (command : String) :
    result.command.filter (!isBlankText ·) = some command ↔
      settings.Asks family process command ∧ ¬ AllBlank command := by
  rw [Option.filter_eq_some_iff, not_isBlankText_iff, asks_iff applied]

private theorem filled_eq_none_iff (applied : settings.applied family process = .ok result) :
    result.command.filter (!isBlankText ·) = none ↔
      ∀ asked, settings.Asks family process asked → AllBlank asked :=
  eq_none_iff_of_eq_some_iff (filled_eq_some_iff applied)

private theorem runs_effectiveCommand (applied : settings.applied family process = .ok result) :
    settings.Runs family process (result.effectiveCommand process) := by
  rw [effectiveCommand]
  cases filled : result.command.filter (!isBlankText ·) with
  | some command =>
    obtain ⟨asks, inked⟩ := (filled_eq_some_iff applied command).mp filled
    exact .asked asks inked
  | none =>
    have blank := (filled_eq_none_iff applied).mp filled
    cases named : process.shell? with
    | some shell =>
      obtain ⟨found, some⟩ := (Variables.shell?_eq_some_iff shell).mp named
      exact .shell blank found some
    | none => exact .fallback blank (Variables.shell?_eq_none_iff.mp named)

/-- What runs is one command, that of the settings with the variables in them. -/
theorem runs_iff (applied : settings.applied family process = .ok result) :
    settings.Runs family process command ↔ result.effectiveCommand process = command := by
  constructor
  · intro runs
    rw [effectiveCommand]
    cases runs with
    | asked asks inked =>
      rw [(filled_eq_some_iff applied _).mpr ⟨asks, inked⟩]
      rfl
    | shell blank found filled =>
      rw [(filled_eq_none_iff applied).mpr blank, (Variables.shell?_eq_some_iff _).mpr ⟨found, filled⟩]
      rfl
    | fallback blank unset =>
      rw [(filled_eq_none_iff applied).mpr blank, Variables.shell?_eq_none_iff.mpr unset]
      rfl
  · rintro rfl
    exact runs_effectiveCommand applied

private theorem Runs.blank_iff (runs : settings.Runs family process command) :
    AllBlank command ↔
      (∀ asked, settings.Asks family process asked → AllBlank asked) ∧
        ∃ shell, process.value? "SHELL" = some shell ∧ shell ≠ "" ∧ AllBlank shell := by
  cases runs with
  | asked asks filled =>
    constructor
    · intro blank
      exact absurd blank filled
    · rintro ⟨blank, -⟩
      exact blank command asks
  | shell blank found filled =>
    -- Nothing keeps this shell from being blank: all that is known of it is that it is not empty.
    constructor
    · intro blankShell
      exact ⟨blank, command, found, filled, blankShell⟩
    · rintro ⟨-, shell, named, -, blankShell⟩
      rw [found] at named
      cases named
      exact blankShell
  | fallback blank unset =>
    constructor
    · intro blankShell
      exact absurd blankShell (not_isBlankText_iff.mp rfl)
    · rintro ⟨-, shell, named, filled, -⟩
      exact absurd (unset shell named) filled

/-! ## Recordings -/

/-- Of a capture, a recording only sees what it does for the command that runs. -/
theorem record_congr {capture other : String → Capture} (terminal : WindowSize)
    (same : other (settings.effectiveCommand process) = capture (settings.effectiveCommand process)) :
    settings.record process terminal other = settings.record process terminal capture := by
  rw [record, record, same]

/-- A recording stores the command that runs. -/
theorem record_stores (settings : RecordSettings) (process : Variables) (terminal : WindowSize)
    (capture : String → Capture) :
    (∃ fault, (capture (settings.effectiveCommand process)).outcome = .error fault ∧
        settings.record process terminal capture = .error fault) ∨
      ∃ finished recording, (capture (settings.effectiveCommand process)).outcome = .ok finished ∧
        settings.record process terminal capture = .ok recording ∧
        recording.command = settings.effectiveCommand process := by
  cases ended : (capture (settings.effectiveCommand process)).outcome with
  | error fault =>
    refine .inl ⟨fault, rfl, ?_⟩
    rw [record, ended]
    rfl
  | ok finished => exact .inr ⟨finished, _, rfl, record_eq_ok terminal ended, rfl⟩

/-- The command that runs is the one that is asked for, unless it is blank; then the shell of the user,
unless it is empty; then the shell that is always there. So it is blank exactly if nothing but blank
commands are asked for and the shell of the user is blank, but not empty. Whatever starts the shell of
the system starts it on this command alone, and the recording that comes of it stores this command. -/
theorem blank_command_iff (applied : settings.applied family process = .ok result) :
    (∀ command, settings.Runs family process command ↔ result.effectiveCommand process = command) ∧
      (AllBlank (result.effectiveCommand process) ↔
        (∀ asked, settings.Asks family process asked → AllBlank asked) ∧
          ∃ shell, process.value? "SHELL" = some shell ∧ shell ≠ "" ∧ AllBlank shell) ∧
      ∀ (terminal : WindowSize) (start : Invocation → Capture),
        let shell : Invocation := ⟨"/bin/sh", ["-c", result.effectiveCommand process]⟩
        (∀ other : Invocation → Capture, other shell = start shell →
          result.record process terminal (other ∘ .ofCommand) =
            result.record process terminal (start ∘ .ofCommand)) ∧
        ((∃ fault, (start shell).outcome = .error fault ∧
            result.record process terminal (start ∘ .ofCommand) = .error fault) ∨
          ∃ finished recording, (start shell).outcome = .ok finished ∧
            result.record process terminal (start ∘ .ofCommand) = .ok recording ∧
            recording.command = result.effectiveCommand process) := by
  refine ⟨fun command => runs_iff applied, (runs_effectiveCommand applied).blank_iff, ?_⟩
  intro terminal start shell
  constructor
  · intro other same
    exact record_congr terminal same
  · exact record_stores result process terminal (start ∘ .ofCommand)

/-- An override that is a blank of Unicode hides a variable and a setting that are none, and gives way
to the shell of the user. -/
theorem blank_command_iff_override :
    let process : Variables := [("TERMCAST_COMMAND", "htop"), ("SHELL", "/bin/zsh")]
    ∃ result, RecordSettings.applied { command := some "vim" }
        (SettingFamily.usual.override "COMMAND" "\u2003") process = .ok result ∧
      ¬ AllBlank (result.effectiveCommand process) ∧
      ∃ recording, result.record process .usual (fun _ => ⟨0, [], .ok 0⟩) = .ok recording ∧
        recording.command = "/bin/zsh" := by
  intro process
  have applied : RecordSettings.applied { command := some "vim" }
      (SettingFamily.usual.override "COMMAND" "\u2003") process =
        .ok { command := some "\u2003" } := rfl
  obtain ⟨-, blank, recorded⟩ := blank_command_iff applied
  refine ⟨_, applied, ?_, ?_⟩
  · rw [blank]
    rintro ⟨-, shell, found, -, blankShell⟩
    have same : process.value? "SHELL" = some "/bin/zsh" := rfl
    rw [found] at same
    cases same
    exact absurd blankShell (not_isBlankText_iff.mp rfl)
  · obtain ⟨-, stored⟩ := recorded .usual fun _ => ⟨0, [], .ok 0⟩
    obtain ⟨fault, failed, -⟩ | ⟨finished, recording, -, made, command⟩ := stored
    · cases failed
    · exact ⟨recording, made, command⟩

/-- With nothing set but a shell that is a space, the space is what the shell of the system is started
on, and what the recording stores. -/
theorem blank_shell_recorded :
    let settings : RecordSettings := { maxWait := ⟨1000000⟩, quiet := true }
    let process : Variables := [("SHELL", " ")]
    settings.applied .usual process = .ok settings ∧
      settings.effectiveCommand process = " " ∧ AllBlank " " ∧
      Invocation.ofCommand (settings.effectiveCommand process) = ⟨"/bin/sh", ["-c", " "]⟩ ∧
      ∃ recording, settings.record process .usual (fun _ => ⟨0, [], .ok 1000000⟩) = .ok recording ∧
        recording.command = " " := by
  intro settings process
  exact ⟨rfl, rfl, isBlankText_iff.mp rfl, rfl, _, rfl, rfl⟩

end RecordSettings
end TermTape

import TermTape.Duration
import TermTape.Number.Layout
import TermTape.Number.Reading
import TermTape.Recording.Basic
import TermTape.Text.Basic
import TermTape.Text.Quoted
import TermTape.Text.Uppercase

/-!
# Variables

Settings come from variables of the process. Those of a family share the first part of their names,
and the family may override single variables. A setting may have no value that can be used.
-/
namespace TermTape

/-! ## Faults of settings -/

/-- A fault of a setting. -/
inductive SettingFault where
  | badValue (name : String) (raw : String) (fault : ValueFault)
  | badSeconds (name : String) (seconds : Binary64)
  | badSpeed (speed : Binary64)
  | described (message : String)
  deriving DecidableEq

/-- The wording of a fault. -/
def SettingFault.message : SettingFault → String
  | .badValue name raw fault => name ++ "=" ++ quoted raw ++ ": " ++ fault.message
  | .badSeconds name seconds =>
    name ++ "=" ++ seconds.plain ++ ": expected a non-negative number of seconds"
  | .badSpeed speed => "playback speed must be a positive number, got " ++ speed.plain
  | .described message => message

/-! ## Variables of a process -/

/-- The variables of a process by name. -/
abbrev Variables := List (String × String)

/-- What follows a text at the start of another. -/
def textAfter? (start text : List Char) : Option (List Char) :=
  if start.isPrefixOf text then some (text.drop start.length) else none

namespace Variables

/-- The value of a variable. A process keeps each variable as a line of its name, an equals sign and
its value, and looks for a line that opens with the name and an equals sign; so a name with an
equals sign in it reaches into a value. -/
def value? (process : Variables) (name : String) : Option String :=
  process.findSome? fun (key, value) =>
    (textAfter? (name.toList ++ ['=']) (key.toList ++ '=' :: value.toList)).map String.ofList

/-- The value of a variable that is there and not empty. -/
def filled? (process : Variables) (name : String) : Option String :=
  (process.value? name).filter (!·.isEmpty)

/-- The shell of the user. -/
def shell? (process : Variables) : Option String := process.filled? "SHELL"

/-- What a recording keeps of the variables. -/
def environment (process : Variables) : Environment :=
  ⟨(process.filled? "TERM").getD "", (process.shell?).getD ""⟩

end Variables

/-- A family of settings: the first part of the names of its variables, and those it overrides, of
which the first of a name counts. -/
structure SettingFamily where
  family : String
  overrides : Variables

namespace SettingFamily

/-- The family of this program. -/
def usual : SettingFamily := ⟨"TERMCAST", []⟩

/-- The variable of a setting. -/
def variableOf (settings : SettingFamily) (setting : String) : String :=
  if settings.family.isEmpty then upperText setting
  else settings.family ++ "_" ++ upperText setting

/-- The family with one setting overridden. -/
def override (settings : SettingFamily) (setting value : String) : SettingFamily :=
  { settings with overrides := (settings.variableOf setting, value) :: settings.overrides }

/-- The text of a setting: the one it is overridden with, or the variable of the process. -/
def text? (settings : SettingFamily) (process : Variables) (setting : String) : Option String :=
  let name := settings.variableOf setting
  (settings.overrides.lookup name).orElse fun _ => process.value? name

/-- The value of a setting in a text without blanks around it. -/
def value? {α : Type} (settings : SettingFamily) (process : Variables)
    (reader : String → Except ValueFault α) (setting : String) : Except SettingFault (Option α) :=
  match settings.text? process setting with
  | none => .ok none
  | some raw =>
    match reader (String.ofList (trimBlanks raw.toList)) with
    | .ok value => .ok (some value)
    | .error fault => .error (.badValue (settings.variableOf setting) raw fault)

/-- The words that turn a setting on. -/
def onWords : List String := ["1", "true", "yes", "on", "enabled"]

/-- Whether a setting is on: its text is one of some words in letters of any case. -/
def on? (settings : SettingFamily) (process : Variables) (setting : String) : Option Bool :=
  (settings.text? process setting).map fun raw =>
    onWords.contains (String.ofList (raw.toList.map Char.toLower))

/-- The duration of a setting in seconds. -/
def seconds? (settings : SettingFamily) (process : Variables) (setting : String) :
    Except SettingFault (Option Duration) := do
  match ← settings.value? process readReal setting with
  | none => .ok none
  | some seconds =>
    match Duration.ofSeconds? seconds with
    | some duration => .ok (some duration)
    | none => .error (.badSeconds (settings.variableOf setting) seconds)

end SettingFamily

end TermTape

import TermTape.Settings.Variables

/-!
# Settings of the log

What is logged, in which form and where to.
-/
namespace TermTape

/-- The form of log entries: lines for people, or one JSON object each. -/
inductive LogForm where
  | pretty
  | json
  deriving DecidableEq

/-- The settings of the log. -/
structure LogSettings where
  filter : String := "warn"
  form : LogForm := .pretty
  file : Option String := none

namespace LogSettings

/-- The settings that variables replace. -/
def applied (settings : LogSettings) (family : SettingFamily) (process : Variables) :
    LogSettings :=
  { settings with filter := (family.text? process "LOG").getD settings.filter }

/-- The settings of the variables of the program. -/
def ofProcess (process : Variables) : LogSettings := applied {} .usual process

end LogSettings
end TermTape

import TermTape.Fault
import TermTape.Recording.Stream
import TermTape.Settings.Variables
import TermTape.Terminal.Notice

/-!
# Recording a session

The settings say what to record and how. A blank command gives way to the shell of the user, and a
shell without a name to the one that is always there. A capture runs the command and writes what it
displays. The recording of a capture has a frame for each write, and one without output for the time
after the last, if there is any. A capture that fails leaves no recording.
-/
namespace TermTape

/-! ## Settings -/

/-- The settings of a recording. -/
structure RecordSettings where
  command : Option String := none
  title : String := ""
  maxWait : Duration := .zero
  quiet : Bool := false
  env : Option Environment := none
  size : Option WindowSize := none

namespace RecordSettings

/-- The shell that is always there. -/
def fallbackShell : String := "/bin/sh"

/-- The settings that variables replace. -/
def applied (settings : RecordSettings) (family : SettingFamily) (process : Variables) :
    Except SettingFault RecordSettings := do
  let maxWait ← family.seconds? process "MAX_WAIT"
  .ok { settings with
    command := (family.text? process "COMMAND").orElse fun _ => settings.command
    title := (family.text? process "TITLE").getD settings.title
    maxWait := maxWait.getD settings.maxWait
    quiet := (family.on? process "QUIET").getD settings.quiet }

/-- The settings of the variables of the program. -/
def ofProcess (process : Variables) : Except SettingFault RecordSettings :=
  applied {} .usual process

/-- The command that runs. -/
def effectiveCommand (settings : RecordSettings) (process : Variables) : String :=
  ((settings.command.filter (!isBlankText ·)).orElse fun _ => process.shell?).getD fallbackShell

end RecordSettings

/-! ## Captures -/

/-- What a capture did: when it started, its writes and when they were, and the moment it ended or
why it failed. -/
structure Capture where
  start : Instant
  writes : List (Bytes × Instant)
  outcome : Except Fault Instant

namespace RecordSettings

/-- The frames of a stream, and a frame for the time at its end. -/
def withTail (stream : FrameStream) (tail : Duration) : List Frame :=
  if tail.isZero then stream.frames else stream.frames ++ [⟨tail.seconds, []⟩]

/-- The recording of a capture of the command that the settings give. -/
def record (settings : RecordSettings) (process : Variables) (terminal : WindowSize)
    (capture : String → Capture) : Except Fault Recording := do
  let command := settings.effectiveCommand process
  let run := capture command
  let stream := (FrameStream.starting settings.maxWait run.start).writes run.writes
  let finished ← run.outcome
  let (tail, stream) := stream.close finished
  let size := settings.size.getD terminal
  .ok { Recording.ofFrames size.columns size.rows (withTail stream tail) with
    command
    title := settings.title
    env := settings.env.getD process.environment }

end RecordSettings

end TermTape

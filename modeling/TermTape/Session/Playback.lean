import TermTape.Fault
import TermTape.Loading.Loader
import TermTape.Settings.Variables
import TermTape.Sink

/-!
# Playing a recording

A player writes the frames of a recording to a sink and flushes it after each. It waits before a
frame as long as the recording says, cut to the longest wait and divided by the speed, which is a
positive number. The settings are checked before anything is loaded.
-/
namespace TermTape

/-! ## Settings -/

/-- The settings of a playback. -/
structure PlaySettings where
  maxWait : Duration := .zero
  speed : Binary64 := Binary64.ofNat 1

namespace PlaySettings

/-- The speed is positive and not infinite. -/
def isValid (settings : PlaySettings) : Bool :=
  settings.speed.isFinite && settings.speed.isAboveZero

/-- The settings, if the speed can be played at. -/
def validated (settings : PlaySettings) : Except SettingFault PlaySettings :=
  if settings.isValid then .ok settings else .error (.badSpeed settings.speed)

/-- The settings that variables replace. -/
def applied (settings : PlaySettings) (family : SettingFamily) (process : Variables) :
    Except SettingFault PlaySettings := do
  let maxWait ← family.seconds? process "PLAY_MAX_WAIT"
  let speed ← family.value? process readReal "PLAY_SPEED"
  validated ⟨maxWait.getD settings.maxWait, speed.getD settings.speed⟩

/-- The settings of the variables of the program. -/
def ofProcess (process : Variables) : Except SettingFault PlaySettings :=
  applied {} .usual process

end PlaySettings

/-! ## Players -/

/-- A player at a speed that can be played at. -/
structure Player where
  settings : PlaySettings
  valid : settings.isValid = true

namespace Player

/-- The player of some settings. -/
def of (settings : PlaySettings) : Except SettingFault Player :=
  if valid : settings.isValid = true then .ok ⟨settings, valid⟩
  else .error (.badSpeed settings.speed)

/-- The wait that a delay stands for: none when it is no duration. -/
def recordedWait (delay : Binary64) : Duration := (Duration.ofSeconds? delay).getD .zero

/-- The pause before a frame; the longest of all when the speed makes it longer. -/
def pauseBefore (player : Player) (delay : Binary64) : Duration :=
  let wait := (recordedWait delay).cut player.settings.maxWait
  (Duration.ofSeconds? (wait.seconds / player.settings.speed)).getD .longest

/-- Write a frame and flush the sink. -/
def showFrame (sink : Sink) (frame : Frame) : Except IoError Unit × Sink :=
  match sink.writeAll frame.data with
  | (.ok _, sink) => sink.flush
  | (.error cause, sink) => (.error cause, sink)

/-- Show the frames from one of an index on, up to the first error. -/
def showFrames (index : Nat) (sink : Sink) : List Frame → Except Fault Unit × Sink
  | [] => (.ok (), sink)
  | frame :: rest =>
    match showFrame sink frame with
    | (.ok _, sink) => showFrames (index + 1) sink rest
    | (.error cause, sink) =>
      (.error (.ioContext ("writing frame " ++ wholeText index) cause), sink)

/-- Play frames: the pauses before them, the outcome and the sink. -/
def play (player : Player) (frames : List Frame) (sink : Sink) :
    List Duration × Except Fault Unit × Sink :=
  (frames.map fun frame => player.pauseBefore frame.delay, showFrames 0 sink frames)

end Player

/-! ## Playing what a location leads to -/

/-- Load the recording that a text leads to. -/
def Loading.loadText (world : World) (limit : Nat) (text : String) : Except Fault Recording := do
  Loading.load world limit (← Location.read text)

/-- Play the recording that a text leads to. -/
def playText (world : World) (settings : PlaySettings) (text : String) (sink : Sink) :
    Except Fault Unit × Sink :=
  match Player.of settings with
  | .error fault => (.error (.setting fault), sink)
  | .ok player =>
    match Loading.loadText world Loading.usualLimit text with
    | .error fault => (.error fault, sink)
    | .ok recording => (player.play recording.frames sink).2

end TermTape

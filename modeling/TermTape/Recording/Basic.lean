import TermTape.Json.Fault
import TermTape.Recording.FrameText

/-!
# Recordings

A recording of a terminal session: its size, its command and title, the environment it ran in, and
the output in frames, each with the seconds that passed before it. Some recordings cannot be written
as documents, and some documents not be read as recordings.
-/
namespace TermTape

/-- Output of a session, and the seconds since the frame before it or since the start. -/
structure Frame where
  delay : Binary64
  data : Bytes
  deriving DecidableEq

/-- A frame as a line of a document: its delay to six places and its text. -/
def Frame.text (frame : Frame) : String :=
  "[" ++ frame.delay.fixed 6 ++ ", " ++ FrameText.encode frame.data ++ "]"

/-- The part of the environment that a recording keeps: the terminal type and the shell. -/
structure Environment where
  term : String
  shell : String
  deriving DecidableEq

/-- An environment without a terminal type or a shell. -/
def Environment.empty : Environment := ⟨"", ""⟩

/-- A recorded session. -/
structure Recording where
  version : UInt32
  width : UInt16
  height : UInt16
  duration : Binary64
  command : String
  title : String
  env : Environment
  frames : List Frame
  deriving DecidableEq

namespace Recording

/-- The version of all recordings. -/
def currentVersion : UInt32 := 1

/-- The seconds of all frames together. -/
def totalDelay (frames : List Frame) : Binary64 :=
  Binary64.sum (frames.map Frame.delay)

/-- A recording of some frames, as long as they are together. -/
def ofFrames (width height : UInt16) (frames : List Frame) : Recording where
  version := currentVersion
  width
  height
  duration := totalDelay frames
  command := ""
  title := ""
  env := .empty
  frames

end Recording

/-! ## Faults of documents -/

/-- A fault of a document. -/
inductive DocumentFault where
  | json (fault : Json.Fault)
  | frameText (fault : FrameText.Fault)
  | durationNotNumber (duration : Binary64)
  | delayNotNumber (delay : Binary64)
  | unknownVersion (version : Nat)
  | negativeDelay (delay : Binary64)
  | inFrame (index : Nat) (fault : DocumentFault)
  deriving DecidableEq

/-- The wording of a fault. -/
def DocumentFault.message : DocumentFault → String
  | .json fault => fault.message
  | .frameText fault => fault.message
  | .durationNotNumber duration => "duration " ++ duration.plain ++ " is not a number"
  | .delayNotNumber delay => "frame delay " ++ delay.plain ++ " is not a number"
  | .unknownVersion version => "unsupported asciicast version " ++ wholeText version
  | .negativeDelay delay => "negative delay " ++ delay.plain
  | .inFrame index fault => "frame " ++ wholeText index ++ ": " ++ fault.message

end TermTape

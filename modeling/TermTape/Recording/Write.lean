import TermTape.Fault
import TermTape.Json.Print
import TermTape.Recording.Basic
import TermTape.Sink

/-!
# Writing documents

A recording as a JSON document of fixed layout: twelve lines for all but the frames, one line for
each frame, and two lines that close the list and the document. Numbers that JSON does not know make
a recording unwritable. A recording that has no document writes nothing to a sink. Otherwise its
document is written segment by segment, up to the first error of the sink.
-/
namespace TermTape.Recording

/-- The frames whose delays are numbers, or the first that has none. -/
def frameTexts : List Frame → Except DocumentFault (List String)
  | [] => .ok []
  | frame :: rest =>
    if frame.delay.isFinite then (frameTexts rest).map (frame.text :: ·)
    else .error (.delayNotNumber frame.delay)

/-- The members of a document in their order. -/
def members (recording : Recording) (frames : List String) : List (String × List String) :=
  [("version", [wholeText recording.version.toNat]),
   ("width", [wholeText recording.width.toNat]),
   ("height", [wholeText recording.height.toNat]),
   ("duration", [recording.duration.fixed 6]),
   ("command", Json.Print.string recording.command),
   ("title", Json.Print.string recording.title),
   ("env", Json.Print.object 1
     [("TERM", Json.Print.string recording.env.term),
      ("SHELL", Json.Print.string recording.env.shell)]),
   ("stdout", Json.Print.list 1 (frames.map fun text => [text]))]

/-- The document of a recording in the segments that a writer receives. -/
def segments (recording : Recording) : Except DocumentFault (List String) :=
  if recording.duration.isFinite then
    (frameTexts recording.frames).map fun frames =>
      Json.Print.object 0 (recording.members frames)
  else .error (.durationNotNumber recording.duration)

/-- The document of a recording. -/
def encode (recording : Recording) : Except DocumentFault String :=
  recording.segments.map String.join

/-- Write the document of a recording. -/
def writeTo (recording : Recording) (sink : Sink) : Except Fault Unit × Sink :=
  match recording.segments with
  | .error fault => (.error (.ofDocument fault), sink)
  | .ok segments =>
    match sink.writeParts (segments.map textBytes) with
    | (.ok _, sink) => (.ok (), sink)
    | (.error cause, sink) => (.error (.io cause), sink)

end TermTape.Recording

import TermTape.Number.Layout
import TermTape.Sink

/-!
# Copies that can be cancelled

A copy waits for its source and for a cancellation at once. It reads a buffer of bytes when the
source has some, and passes them on in one write. It ends at the end of the source, or as soon as it
sees the cancellation, which it heeds before it reads. What its waits and reads report is a list of
replies.
-/
namespace TermTape.Copy

/-- The most bytes of one read. -/
def bufferSize : Nat := 32768

/-- What a read reports: bytes of the source up to a count, of which none mean its end; that it
should be repeated; or a failure. -/
inductive ReadReply where
  | upTo (count : Nat)
  | again
  | fails (cause : IoError)

/-- What a wait reports of the source: nothing yet, that it is not open, or the reply of a read. -/
inductive SourceReply where
  | idle
  | notOpen
  | ready (read : ReadReply)

/-- What a wait reports: that it was interrupted, a failure, or the cancellation and the source. -/
inductive WaitReply where
  | interrupted
  | fails (cause : IoError)
  | woken (cancelled : Bool) (source : SourceReply)

/-- A copy that goes on: what is left of its source, its sink, and the bytes copied. -/
structure State where
  source : Bytes
  sink : Sink
  total : Nat

/-- A copy of a source that has not begun. -/
def State.start (source : Bytes) (sink : Sink) : State := ⟨source, sink, 0⟩

/-- The error of a source that is not open. -/
def sourceNotOpen : IoError := ⟨.invalidInput, "source descriptor is not open"⟩

/-- The error of a sink that took a part of the bytes. -/
def shortWrite (taken total : Nat) : IoError :=
  ⟨.writeZero, "short write: " ++ wholeText taken ++ " of " ++ wholeText total ++ " bytes"⟩

/-- Write bytes in one write. -/
def writeChunk (sink : Sink) (chunk : Bytes) : Except IoError Unit × Sink :=
  match sink.write chunk with
  | (.ok taken, sink) =>
    (if taken = chunk.length then .ok () else .error (shortWrite taken chunk.length), sink)
  | (.error cause, sink) => (.error cause, sink)

/-- The outcome of a copy, if it has ended, and its last state. -/
def run (state : State) : List WaitReply → Option (Except IoError Nat) × State
  | [] => (none, state)
  | .interrupted :: rest => run state rest
  | .fails cause :: _ => (some (.error cause), state)
  | .woken true _ :: _ => (some (.ok state.total), state)
  | .woken false .idle :: rest => run state rest
  | .woken false .notOpen :: _ => (some (.error sourceNotOpen), state)
  | .woken false (.ready .again) :: rest => run state rest
  | .woken false (.ready (.fails cause)) :: _ => (some (.error cause), state)
  | .woken false (.ready (.upTo count)) :: rest =>
    let chunk := state.source.take (min count bufferSize)
    if chunk.isEmpty then (some (.ok state.total), state)
    else
      match writeChunk state.sink chunk with
      | (.ok _, sink) =>
        run ⟨state.source.drop chunk.length, sink, state.total + chunk.length⟩ rest
      | (.error cause, sink) =>
        (some (.error cause), { state with source := state.source.drop chunk.length, sink })

/-- The replies of a source that is always ready, as many as a copy of it can need. -/
def steady (cancelled : Bool) (source : Bytes) : List WaitReply :=
  List.replicate (source.length / bufferSize + 2) (.woken cancelled (.ready (.upTo bufferSize)))

end TermTape.Copy

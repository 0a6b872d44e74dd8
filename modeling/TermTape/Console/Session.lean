import TermTape.Console.Repaint
import TermTape.Device.Child
import TermTape.Fault
import TermTape.Sink

/-!
# Captures of consoles

A console without an output stream is polled: each poll takes a snapshot and writes what has changed
since the last one. A poll without a snapshot, or without a change, writes nothing. A session
remembers the last snapshot whether or not the sink took its bytes.
-/
namespace TermTape.Console

/-- What a session remembers. -/
structure Session where
  last : Option Snapshot

/-- A session that has seen nothing. -/
def Session.fresh : Session := ⟨none⟩

/-- The error of a sink that took a part of the bytes. -/
def shortWrite (taken total : Nat) : IoError :=
  ⟨.writeZero, "short write to sink: " ++ wholeText taken ++ " of " ++ wholeText total ++ " bytes"⟩

/-- Write bytes in one write. -/
def writeOnce (sink : Sink) (data : Bytes) : Except IoError Unit × Sink :=
  if data.isEmpty then (.ok (), sink)
  else match sink.write data with
    | (.ok taken, sink) =>
      (if taken = data.length then .ok () else .error (shortWrite taken data.length), sink)
    | (.error cause, sink) => (.error cause, sink)

/-- One poll of a session. -/
def Session.poll (session : Session) (reading : Except DeviceFault Snapshot) (sink : Sink) :
    Except IoError Unit × Session × Sink :=
  match reading with
  | .error _ => (.ok (), session, sink)
  | .ok snapshot =>
    let (result, sink) := writeOnce sink (controlBytes (repaint session.last snapshot))
    (result, ⟨some snapshot⟩, sink)

/-- Polls up to the first error. -/
def Session.polls (session : Session) (sink : Sink) :
    List (Except DeviceFault Snapshot) → Except IoError Unit × Session × Sink
  | [] => (.ok (), session, sink)
  | reading :: rest =>
    match session.poll reading sink with
    | (.ok _, session, sink) => session.polls sink rest
    | failed => failed

/-- Record a command: poll while it runs and once after it has ended. -/
def Session.record (session : Session) (command : String)
    (running : List (Except DeviceFault Snapshot)) (ended : Except DeviceFault Snapshot)
    (sink : Sink) : Except Fault Unit × Session × Sink :=
  match (Invocation.ofCommand command).checked with
  | .error cause => (.error (.ofDevice cause), session, sink)
  | .ok _ =>
    let (result, session, sink) := session.polls sink (running ++ [ended])
    (result.mapError (.ioContext "writing screen changes"), session, sink)

end TermTape.Console

import TermTape.IoError
import TermTape.Text.Utf8

/-!
# Sinks

A sink takes bytes in writes that may be short or fail. What its next writes and flushes do is a
list of replies; once they are used up, every write takes all its bytes and every flush succeeds. A
sink keeps what it took and what it was offered.
-/
namespace TermTape

/-- What a sink does with one write. -/
inductive WriteReply where
  | all
  | upTo (limit : Nat)
  | fail (cause : IoError)
  deriving DecidableEq

/-- A sink with its coming replies and its past. -/
structure Sink where
  replies : List WriteReply
  flushReplies : List (Option IoError)
  chunks : List Bytes
  offers : List Nat
  flushes : Nat

namespace Sink

/-- A sink with coming replies and no past. -/
def replying (replies : List WriteReply) : Sink := ⟨replies, [], [], [], 0⟩

/-- The bytes taken so far. -/
def accepted (sink : Sink) : Bytes := sink.chunks.reverse.flatten

/-- The length of each write so far. -/
def offered (sink : Sink) : List Nat := sink.offers.reverse

/-- A write that takes some of its bytes. -/
def take (sink : Sink) (count : Nat) (data : Bytes) (replies : List WriteReply) : Sink :=
  { sink with
    replies
    chunks := data.take count :: sink.chunks
    offers := data.length :: sink.offers }

/-- One write: the count of bytes taken, or the error of the sink. -/
def write (sink : Sink) (data : Bytes) : Except IoError Nat × Sink :=
  match sink.replies with
  | [] => (.ok data.length, sink.take data.length data [])
  | .all :: replies => (.ok data.length, sink.take data.length data replies)
  | .upTo limit :: replies =>
    (.ok (min limit data.length), sink.take (min limit data.length) data replies)
  | .fail cause :: replies => (.error cause, sink.take 0 data replies)

/-- Writes until all bytes are taken: short writes go on with the rest, and an interrupted one is
repeated. A write that takes nothing is an error, and so is any other failure. -/
def writeAllAfter (replies : List WriteReply) (sink : Sink) (data : Bytes) :
    Except IoError Unit × Sink :=
  if data.isEmpty then (.ok (), { sink with replies })
  else match replies with
    | [] => (.ok (), sink.take data.length data [])
    | .all :: replies => (.ok (), sink.take data.length data replies)
    | .upTo limit :: replies =>
      let count := min limit data.length
      let sink := sink.take count data replies
      if count = 0 then (.error .wroteNothing, sink)
      else writeAllAfter replies sink (data.drop count)
    | .fail cause :: replies =>
      let sink := sink.take 0 data replies
      if cause.kind = .interrupted then writeAllAfter replies sink data
      else (.error cause, sink)

/-- Write all bytes. -/
def writeAll (sink : Sink) (data : Bytes) : Except IoError Unit × Sink :=
  writeAllAfter sink.replies sink data

/-- Write all bytes of each part in turn, up to the first error. -/
def writeParts (sink : Sink) : List Bytes → Except IoError Unit × Sink
  | [] => (.ok (), sink)
  | part :: rest =>
    match sink.writeAll part with
    | (.ok _, sink) => sink.writeParts rest
    | (.error cause, sink) => (.error cause, sink)

/-- Flush what was written. -/
def flush (sink : Sink) : Except IoError Unit × Sink :=
  let sink' := { sink with
    flushReplies := sink.flushReplies.drop 1
    flushes := sink.flushes + 1 }
  match sink.flushReplies with
  | some cause :: _ => (.error cause, sink')
  | _ => (.ok (), sink')

end Sink
end TermTape

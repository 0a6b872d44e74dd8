import TermTape.IoError
import TermTape.Text.Utf8

/-!
# Writes to descriptors

A descriptor may take a part of a write, be interrupted, or have no room and make its writer wait.
A write to it goes on until all bytes are taken, none are, or something fails. What the descriptor
does is a list of replies to writes and one of replies to waits; once these are used up it takes
everything and has room. It keeps what it took and the calls it got.
-/
namespace TermTape

/-- What a descriptor does with a write: it takes bytes up to a count, has no room, is interrupted,
or fails. -/
inductive Descriptor.WriteReply where
  | upTo (count : Nat)
  | noRoom
  | interrupted
  | fails (cause : IoError)

/-- What a wait for room reports. -/
inductive Descriptor.WaitReply where
  | ready
  | interrupted
  | fails (cause : IoError)

/-- A call to a descriptor. -/
inductive Descriptor.Call where
  | write (offered : Nat)
  | wait
  deriving DecidableEq

/-- A descriptor with its coming replies and its past, the latest first. -/
structure Descriptor where
  writes : List Descriptor.WriteReply
  waits : List Descriptor.WaitReply
  chunks : List Bytes
  calls : List Descriptor.Call

namespace Descriptor

/-- A descriptor without a past. -/
def replying (writes : List WriteReply) (waits : List WaitReply) : Descriptor :=
  ⟨writes, waits, [], []⟩

/-- The bytes taken so far. -/
def received (descriptor : Descriptor) : Bytes := descriptor.chunks.reverse.flatten

/-- Wait until there is room. An interrupted wait is repeated. -/
def waitForRoom (descriptor : Descriptor) (waits : List WaitReply) :
    Except IoError Unit × Descriptor :=
  let called := { descriptor with calls := .wait :: descriptor.calls }
  match waits with
  | [] => (.ok (), { called with waits := [] })
  | .ready :: rest => (.ok (), { called with waits := rest })
  | .interrupted :: rest => waitForRoom called rest
  | .fails cause :: rest => (.error cause, { called with waits := rest })

/-- The descriptor after it took some of the bytes it was offered. -/
def take (descriptor : Descriptor) (count : Nat) (data : Bytes) (writes : List WriteReply) :
    Descriptor :=
  { descriptor with
    writes
    chunks := data.take count :: descriptor.chunks
    calls := .write data.length :: descriptor.calls }

/-- Write the rest of a buffer of which some bytes have been taken. -/
def writeRest (taken : Nat) (descriptor : Descriptor) (data : Bytes) (writes : List WriteReply) :
    Except IoError Nat × Descriptor :=
  if data.isEmpty then (.ok taken, { descriptor with writes })
  else match writes with
    | [] => (.ok (taken + data.length), descriptor.take data.length data [])
    | .upTo count :: rest =>
      let count := min count data.length
      let descriptor := descriptor.take count data rest
      if count = 0 then (.ok taken, descriptor)
      else writeRest (taken + count) descriptor (data.drop count) rest
    | .interrupted :: rest => writeRest taken (descriptor.take 0 data rest) data rest
    | .fails cause :: rest => (.error cause, descriptor.take 0 data rest)
    | .noRoom :: rest =>
      let asked := descriptor.take 0 data rest
      match waitForRoom asked asked.waits with
      | (.ok _, descriptor) => writeRest taken descriptor data rest
      | (.error cause, descriptor) => (.error cause, descriptor)

/-- Write a buffer: the count of bytes taken, or the error that ended the write. -/
def write (descriptor : Descriptor) (data : Bytes) : Except IoError Nat × Descriptor :=
  writeRest 0 descriptor data descriptor.writes

/-- Write buffers one after another. -/
def writeEach (descriptor : Descriptor) : List Bytes → List (Except IoError Nat) × Descriptor
  | [] => ([], descriptor)
  | data :: rest =>
    let (result, descriptor) := descriptor.write data
    let (results, descriptor) := descriptor.writeEach rest
    (result :: results, descriptor)

end Descriptor
end TermTape

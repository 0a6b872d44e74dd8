import TermTape.Duration
import TermTape.Recording.Basic

/-!
# Streams of timed frames

A stream turns writes into frames. The delay of a write is the time since the call before it, or
since the start; it is nothing when time went backwards, and is cut to the longest wait. Closing
counts the time since the last call in the same way.
-/
namespace TermTape

/-- A moment, in nanoseconds from an arbitrary one. -/
abbrev Instant := Int

/-- The time from one moment to another, and none when the other is not later. -/
def Duration.between (earlier later : Instant) : Duration := ⟨(later - earlier).toNat⟩

/-- The frames of a session that is going on. -/
structure FrameStream where
  maxWait : Duration
  last : Instant
  elapsed : Duration
  frames : List Frame

namespace FrameStream

/-- A stream without frames. -/
def starting (maxWait : Duration) (start : Instant) : FrameStream := ⟨maxWait, start, .zero, []⟩

/-- The delay of a call. -/
def delayAt (stream : FrameStream) (now : Instant) : Duration :=
  (Duration.between stream.last now).cut stream.maxWait

/-- The stream after a call that adds no frame. -/
def advanced (stream : FrameStream) (now : Instant) : FrameStream :=
  { stream with last := now, elapsed := stream.elapsed + stream.delayAt now }

/-- The stream after a write. -/
def write (stream : FrameStream) (data : Bytes) (now : Instant) : FrameStream :=
  { stream.advanced now with
    frames := stream.frames ++ [⟨(stream.delayAt now).seconds, data⟩] }

/-- The time since the last call, and the stream that has counted it. -/
def close (stream : FrameStream) (now : Instant) : Duration × FrameStream :=
  (stream.delayAt now, stream.advanced now)

/-- The stream after several writes. -/
def writes (stream : FrameStream) (calls : List (Bytes × Instant)) : FrameStream :=
  calls.foldl (fun stream (data, now) => stream.write data now) stream

end FrameStream
end TermTape

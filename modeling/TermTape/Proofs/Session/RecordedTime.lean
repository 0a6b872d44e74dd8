import TermTape.Proofs.Recording.Timing
import TermTape.Session.Recorder

/-!
# Time and frames of recorded sessions

A recording shows the time of its session in the delays of its frames: the waits of the writes, and
the wait of the close in a frame of its own. The frame is left out if the close did not wait, and then
it stands for no time. So the delays are those of waits that add up to what the stream counted
(`record_keeps_time`).
-/
namespace TermTape

namespace FrameStream

/-! ## Streams that are only written to -/

private theorem data_write (stream : FrameStream) (data : Bytes) (now : Instant) :
    (stream.write data now).frames.map Frame.data = stream.frames.map Frame.data ++ [data] := by
  rw [write, List.map_append, List.map_singleton]

/-- A stream has a frame for each write, with the bytes of the write. -/
theorem data_writes (stream : FrameStream) (calls : List (Bytes × Instant)) :
    (stream.writes calls).frames.map Frame.data = stream.frames.map Frame.data ++ calls.map Prod.fst := by
  induction calls generalizing stream with
  | nil => exact (List.append_nil _).symm
  | cons call others ih =>
    have rest := ih (stream.write call.1 call.2)
    rw [data_write, List.append_assoc] at rest
    exact rest

/-- A write as a call. -/
def Call.ofWrite : Bytes × Instant → Call
  | (data, moment) => .write data moment

private theorem run_ofWrite (stream : FrameStream) (writes : List (Bytes × Instant)) :
    (stream.run (writes.map Call.ofWrite)).2 = stream.writes writes := by
  induction writes generalizing stream with
  | nil => rfl
  | cons write others ih => exact ih (stream.write write.1 write.2)

private theorem moment_ofWrite (writes : List (Bytes × Instant)) :
    (writes.map Call.ofWrite).map Call.moment = writes.map Prod.snd := by
  rw [List.map_map]
  rfl

private theorem delay_framesOf_ofWrite {writes : List (Bytes × Instant)} {waits : List Duration}
    (each : waits.length = writes.length) :
    (framesOf (writes.map Call.ofWrite) waits).map Frame.delay = waits.map Duration.seconds := by
  induction writes generalizing waits with
  | nil =>
    obtain rfl := List.eq_nil_of_length_eq_zero each
    rfl
  | cons write others ih =>
    cases waits with
    | nil => cases each
    | cons wait rest => exact congrArg (wait.seconds :: ·) (ih (Nat.succ.inj each))

private theorem waitsOf_concat (limit : Duration) (start moment : Instant)
    (moments : List Instant) :
    waitsOf limit start (moments ++ [moment]) =
      waitsOf limit start moments ++ [waitBetween limit (moments.getLastD start) moment] := by
  induction moments generalizing start with
  | nil => rfl
  | cons first others ih =>
    rw [List.cons_append, waitsOf_cons, ih, waitsOf_cons, List.getLastD_cons, List.cons_append]

private theorem total_concat (waits : List Duration) (wait : Duration) :
    total (waits ++ [wait]) = total waits + wait.nanoseconds := by
  rw [total, List.map_append, List.sum_append_nat]
  rfl

/-- A stream that is written to and closed shows the waits of the writes in its frames, returns that
of the close, and counts them all. -/
theorem writes_close (maxWait : Duration) (start : Instant) (writes : List (Bytes × Instant))
    (finished : Instant) :
    ∃ waits tail stream, ((starting maxWait start).writes writes).close finished = (tail, stream) ∧
      waits ++ [tail] = waitsOf maxWait start (writes.map Prod.snd ++ [finished]) ∧
      stream.frames.map Frame.data = writes.map Prod.fst ∧
      stream.frames.map Frame.delay = waits.map Duration.seconds ∧
      stream.elapsed.nanoseconds = total (waits ++ [tail]) := by
  have ran := run_accounts (starting maxWait start) (writes.map Call.ofWrite)
  have last := ran.last
  rw [run_ofWrite, moment_ofWrite] at ran last
  have wait : ((starting maxWait start).writes writes).delayAt finished =
      waitBetween maxWait ((writes.map Prod.snd).getLastD start) finished := by
    rw [delayAt_eq_waitBetween, last, ran.maxWait]
    rfl
  refine ⟨waitsOf maxWait start (writes.map Prod.snd), _, _, rfl, ?_, ?_, ?_, ?_⟩
  · rw [waitsOf_concat, wait]
  · exact data_writes (starting maxWait start) writes
  · have delays := congrArg (List.map Frame.delay) ran.frames
    rw [List.map_append] at delays
    exact delays.trans (delay_framesOf_ofWrite (by rw [length_waitsOf, List.length_map]))
  · rw [total_concat]
    exact congrArg (· + _) (ran.elapsed.trans (Nat.zero_add _))

end FrameStream

namespace RecordSettings

/-! ## Recordings -/

variable {settings : RecordSettings} {process : Variables} {capture : String → Capture}
  {finished : Instant}

/-- The recording of a capture that ended has the frames of its stream after the close. -/
theorem record_eq_ok (terminal : WindowSize)
    (ended : (capture (settings.effectiveCommand process)).outcome = .ok finished) :
    let run := capture (settings.effectiveCommand process)
    let closed := ((FrameStream.starting settings.maxWait run.start).writes run.writes).close finished
    let size := settings.size.getD terminal
    settings.record process terminal capture =
      .ok { Recording.ofFrames size.columns size.rows (withTail closed.2 closed.1) with
            command := settings.effectiveCommand process
            title := settings.title
            env := settings.env.getD process.environment } := by
  rw [record, ended]
  rfl

/-- The waits that a recording shows: all of them, but for a close that did not wait. -/
def shownWaits (waits : List Duration) (tail : Duration) : List Duration :=
  waits ++ if tail.nanoseconds = 0 then [] else [tail]

theorem total_shownWaits (waits : List Duration) (tail : Duration) :
    FrameStream.total (shownWaits waits tail) = FrameStream.total (waits ++ [tail]) := by
  rw [shownWaits, FrameStream.total_concat]
  split
  case isTrue none => rw [none, List.append_nil, Nat.add_zero]
  case isFalse some => rw [FrameStream.total_concat]

private theorem mem_of_mem_shownWaits {waits : List Duration} {tail wait : Duration}
    (shown : wait ∈ shownWaits waits tail) : wait ∈ waits ++ [tail] := by
  rw [shownWaits] at shown
  split at shown
  · exact List.mem_append_left _ (by simpa using shown)
  · exact shown

private theorem data_withTail (stream : FrameStream) (tail : Duration) :
    (withTail stream tail).map Frame.data =
      stream.frames.map Frame.data ++ if tail.nanoseconds = 0 then [] else [[]] := by
  rw [withTail, Duration.isZero]
  by_cases none : tail.nanoseconds = 0
  · simp [none]
  · simp [none]

theorem delay_withTail {stream : FrameStream} {waits : List Duration}
    (delays : stream.frames.map Frame.delay = waits.map Duration.seconds) (tail : Duration) :
    (withTail stream tail).map Frame.delay = (shownWaits waits tail).map Duration.seconds := by
  rw [withTail, Duration.isZero, shownWaits]
  by_cases none : tail.nanoseconds = 0
  · simp [none, delays]
  · simp [none, delays]

/-- A capture that fails leaves no recording but its error. One that ends is recorded with a frame for
each write, in their order, and an empty one after them exactly if the close waited. The delays of the
frames are those of the waits of all these calls; the waits add up to the nanoseconds that the stream
counted, and none is longer than the longest wait if there is one. The recording is as long as its
delays are together. -/
theorem record_keeps_time (settings : RecordSettings) (process : Variables) (terminal : WindowSize)
    (capture : String → Capture) :
    let run := capture (settings.effectiveCommand process)
    (∃ fault, run.outcome = .error fault ∧
        settings.record process terminal capture = .error fault) ∨
      ∃ finished recording waits tail stream, run.outcome = .ok finished ∧
        settings.record process terminal capture = .ok recording ∧
        ((FrameStream.starting settings.maxWait run.start).writes run.writes).close finished =
          (tail, stream) ∧
        waits ++ [tail] = FrameStream.waitsOf settings.maxWait run.start
          (run.writes.map Prod.snd ++ [finished]) ∧
        recording.frames.map Frame.data =
          run.writes.map Prod.fst ++ (if tail.nanoseconds = 0 then [] else [[]]) ∧
        recording.frames.map Frame.delay = (shownWaits waits tail).map Duration.seconds ∧
        ((shownWaits waits tail).map Duration.nanoseconds).sum = stream.elapsed.nanoseconds ∧
        (settings.maxWait.nanoseconds = 0 ∨ ∀ wait ∈ shownWaits waits tail, wait ≤ settings.maxWait) ∧
        recording.duration = Binary64.sum (recording.frames.map Frame.delay) := by
  dsimp only
  cases ended : (capture (settings.effectiveCommand process)).outcome with
  | error fault =>
    refine .inl ⟨fault, rfl, ?_⟩
    rw [record, ended]
    rfl
  | ok finished =>
    right
    have recorded := record_eq_ok terminal ended
    obtain ⟨waits, tail, stream, closes, all, data, delays, counted⟩ :=
      FrameStream.writes_close settings.maxWait (capture (settings.effectiveCommand process)).start
        (capture (settings.effectiveCommand process)).writes finished
    dsimp only at recorded
    rw [closes] at recorded
    refine ⟨finished, _, waits, tail, stream, rfl, recorded, closes, all, ?_, ?_, ?_, ?_, rfl⟩
    · rw [← data]
      exact data_withTail stream tail
    · exact delay_withTail delays tail
    · rw [counted]
      exact total_shownWaits waits tail
    · by_cases zero : settings.maxWait.nanoseconds = 0
      · exact .inl zero
      right
      intro wait shown
      have member := mem_of_mem_shownWaits shown
      rw [all] at member
      obtain ⟨interval, -, rfl⟩ := List.mem_map.mp member
      exact (FrameStream.waitBetween_le_limit _ _).resolve_left zero

end RecordSettings
end TermTape

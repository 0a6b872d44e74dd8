import TermTape.Proofs.Sink.Refusals
import TermTape.Session.Playback

/-!
# Playing to sinks that refuse

A frame is shown when the sink has taken all of its bytes and was flushed. Playing shows one frame
after another and ends with the first that is not shown, whatever the sink does in between: it takes
writes in part, interrupts them, refuses one or cannot be flushed. What the sink has taken is then
known to the byte, and so are its flushes and the frame that is blamed (`play_until_refused`).
-/
namespace TermTape.Player

variable {sink middle before after : Sink} {frame : Frame} {frames rest : List Frame} {cause : IoError}

/-! ## One frame -/

/-- A frame is not shown: the sink takes the first of its bytes and refuses a write of those that come
next, or it takes all of them and cannot be flushed. -/
inductive Fails (sink : Sink) (frame : Frame) (cause : IoError) (after : Sink) : Prop where
  | write {before : Sink} (part offer : Bytes) (some : offer ≠ []) (next : part ++ offer <+: frame.data)
      (progress : sink.Progress part 0 before) (refuses : before.Refuses offer cause after)
  | flush {before : Sink} (progress : sink.Progress frame.data 0 before)
      (failed : before.flush = (.error cause, after))

private theorem showFrame_cases (sink : Sink) (frame : Frame) :
    (∃ after, showFrame sink frame = (.ok (), after) ∧ sink.Progress frame.data 1 after) ∨
      ∃ cause after, showFrame sink frame = (.error cause, after) ∧ Fails sink frame cause after := by
  have written := sink.writeAll_written frame.data
  rw [showFrame]
  rcases ended : sink.writeAll frame.data with ⟨result, before⟩
  rw [ended] at written
  cases written with
  | cut part offer left parts some progress refuses =>
    exact .inr ⟨_, before, rfl, .write part offer some ⟨left, parts.symm⟩ progress refuses⟩
  | whole progress =>
    dsimp only
    rcases flushed : before.flush with ⟨_ | _, after⟩
    · exact .inr ⟨_, after, rfl, .flush progress flushed⟩
    · have shown := progress.trans (.of_flushed flushed)
      rw [List.append_nil] at shown
      exact .inl ⟨after, rfl, shown⟩

/-! ## All frames -/

/-- The bytes of some frames, one after another. -/
def bytes (frames : List Frame) : Bytes := (frames.map Frame.data).flatten

theorem bytes_cons (frame : Frame) (frames : List Frame) :
    bytes (frame :: frames) = frame.data ++ bytes frames :=
  List.flatten_cons

theorem bytes_append (front back : List Frame) : bytes (front ++ back) = bytes front ++ bytes back := by
  rw [bytes, List.map_append, List.flatten_append]
  rfl

/-- All frames are shown, or those before one that fails. -/
theorem showFrames_cases (index : Nat) (sink : Sink) (frames : List Frame) :
    (∃ after, showFrames index sink frames = (.ok (), after) ∧
        sink.Progress (bytes frames) frames.length after) ∨
      ∃ shown frame rest cause middle after, frames = shown ++ frame :: rest ∧
        showFrames index sink frames =
          (.error (.ioContext ("writing frame " ++ wholeText (index + shown.length)) cause), after) ∧
        sink.Progress (bytes shown) shown.length middle ∧ Fails middle frame cause after := by
  induction frames generalizing index sink with
  | nil => exact .inl ⟨sink, rfl, .refl sink⟩
  | cons first others ih =>
    rw [showFrames]
    obtain ⟨next, shows, progress⟩ | ⟨cause, after, stops, fails⟩ := showFrame_cases sink first
    · rw [shows]
      -- The rest is shown from the next index on; the frame that fails there is one later here.
      obtain ⟨after, ended, more⟩ |
        ⟨shown, frame, rest, cause, middle, after, parts, ended, more, fails⟩ := ih (index + 1) next
      all_goals have both := progress.trans more
      · rw [Nat.add_comm, ← bytes_cons] at both
        exact .inl ⟨after, ended, both⟩
      · rw [Nat.add_comm 1, ← bytes_cons] at both
        rw [Nat.add_assoc, Nat.add_comm 1] at ended
        exact .inr ⟨first :: shown, frame, rest, cause, middle, after, by rw [parts]; rfl, ended, both,
          fails⟩
    · rw [stops]
      exact .inr ⟨[], first, others, cause, sink, after, rfl, rfl, .refl sink, fails⟩

/-- Playing ends, and the sink takes the first bytes of the frames. Either it takes all of them and is
flushed after each frame, or playing fails at a frame after the sink took all frames before that and
was flushed after each of them; the error names the frame. If a write of the frame failed, the sink
took no more than a part of its bytes; if the flush did, it took all of them. Up to that write or flush
all calls passed, and it was the last. -/
theorem play_until_refused (player : Player) (frames : List Frame) (sink : Sink) :
    ∃ pauses result after taken, player.play frames sink = (pauses, result, after) ∧
      after.accepted = sink.accepted ++ taken ∧ taken <+: bytes frames ∧
      ((result = .ok () ∧ taken = bytes frames ∧ sink.Progress taken frames.length after ∧
          after.flushes = sink.flushes + frames.length) ∨
        ∃ shown frame rest cause before, frames = shown ++ frame :: rest ∧
          result = .error (.ioContext ("writing frame " ++ wholeText shown.length) cause) ∧
          sink.Progress taken shown.length before ∧
          ((∃ part offer, taken = bytes shown ++ part ∧ offer ≠ [] ∧ part ++ offer <+: frame.data ∧
              before.Refuses offer cause after ∧ after.flushes = sink.flushes + shown.length) ∨
            (taken = bytes shown ++ frame.data ∧ before.flush = (.error cause, after) ∧
              after.flushes = sink.flushes + shown.length + 1))) := by
  rw [play]
  obtain ⟨after, ended, progress⟩ |
    ⟨shown, frame, rest, cause, middle, after, rfl, ended, progress, fails⟩ :=
    showFrames_cases 0 sink frames
  · rw [ended]
    exact ⟨_, _, after, bytes frames, rfl, progress.accepted, List.prefix_rfl,
      .inl ⟨rfl, rfl, progress, progress.flushes⟩⟩
  rw [ended, Nat.zero_add, bytes_append, bytes_cons]
  cases fails with
  | @write before part offer some next first refuses =>
    have both : sink.Progress (bytes shown ++ part) shown.length before := progress.trans first
    refine ⟨_, _, after, bytes shown ++ part, rfl, ?_, ?_, .inr ⟨shown, frame, rest, cause, before, rfl,
      rfl, both, .inl ⟨part, offer, rfl, some, next, refuses, ?_⟩⟩⟩
    · rw [refuses.accepted, both.accepted]
    · have inside : part <+: frame.data := (List.prefix_append part offer).trans next
      exact (List.prefix_append_right_inj _).mpr (inside.trans (List.prefix_append ..))
    · rw [refuses.flushes, both.flushes]
  | @flush before whole failed =>
    have both : sink.Progress (bytes shown ++ frame.data) shown.length before := progress.trans whole
    refine ⟨_, _, after, bytes shown ++ frame.data, rfl, ?_, ?_, .inr ⟨shown, frame, rest, cause, before,
      rfl, rfl, both, .inr ⟨rfl, failed, ?_⟩⟩⟩
    · rw [Sink.accepted_of_flush failed, both.accepted]
    · rw [← List.append_assoc]
      exact List.prefix_append ..
    · rw [Sink.flushes_of_flush failed, both.flushes]

/-- A short write and an interrupted one are made up for; a flush that fails is not. -/
example :
    let shown := showFrames 0 ⟨[.upTo 1, .fail ⟨.interrupted, ""⟩], [none, some .brokenPipe], [], [], 0⟩
      [⟨.zero false, [1, 2]⟩, ⟨.zero false, [3]⟩, ⟨.zero false, [4]⟩]
    shown.1 = .error (.ioContext "writing frame 1" .brokenPipe) ∧ shown.2.accepted = [1, 2, 3] :=
  ⟨rfl, rfl⟩

end TermTape.Player

import TermTape.Proofs.Json.Rounding
import TermTape.Proofs.Number.Seconds
import TermTape.Proofs.Recording.RoundTrip
import TermTape.Proofs.Session.RecordedTime
import TermTape.Proofs.Sink
import TermTape.Session.Playback

/-!
# From a capture to its playback

Whatever a capture writes comes out of the player again, byte for byte, after it was recorded,
written as a document and read (`playback_of_capture`). To which numbers the texts of its times are
rounded does not matter for the bytes, as long as they are in range (`Recording.Legible`). They are for
every capture that took no longer than the longest duration, however many frames it has
(`moderate_of_waits`).
-/
namespace TermTape

/-! ## Recording -/

/-- Time does not go back from the start of a capture over its writes to the moment it ends. -/
def Capture.Forward (capture : Capture) (finished : Instant) : Prop :=
  (capture.start :: (capture.writes.map Prod.snd ++ [finished])).Pairwise (· ≤ ·)

instance (capture : Capture) (finished : Instant) : Decidable (capture.Forward finished) :=
  inferInstanceAs (Decidable (List.Pairwise _ _))

namespace RecordSettings

/-- The chunks of a recording: those that were captured, and one without bytes for the time after
them if there is any. -/
def Holds (frames : List Frame) (chunks : List Bytes) : Prop :=
  frames.map Frame.data = chunks ∨ frames.map Frame.data = chunks ++ [[]]

private theorem holds_withTail {stream : FrameStream} {chunks : List Bytes}
    (data : stream.frames.map Frame.data = chunks) (tail : Duration) :
    Holds (withTail stream tail) chunks := by
  unfold withTail
  split
  · exact .inl data
  · exact .inr (by rw [List.map_append, List.map_singleton, data])

/-- The delays of frames are the seconds of some waits. -/
def Measures (waits : List Duration) (frames : List Frame) : Prop :=
  frames.map Frame.delay = waits.map Duration.seconds

theorem exists_wait {waits : List Duration} {frames : List Frame} (measures : Measures waits frames) :
    ∀ frame ∈ frames, ∃ wait : Duration, frame.delay = wait.seconds := by
  intro frame member
  have inside : frame.delay ∈ frames.map Frame.delay := List.mem_map_of_mem member
  rw [measures] at inside
  obtain ⟨wait, -, same⟩ := List.mem_map.mp inside
  exact ⟨wait, same.symm⟩

variable {settings : RecordSettings} {process : Variables} {capture : String → Capture}
  {finished : Instant}

/-- A capture that ended is recorded with its chunks and measured delays. If time never goes back, the
delays are together no longer than the capture was. -/
theorem record_of_ended (terminal : WindowSize)
    (ended : (capture (settings.effectiveCommand process)).outcome = .ok finished) :
    ∃ recording waits, settings.record process terminal capture = .ok recording ∧
      recording.version = Recording.currentVersion ∧
      recording.duration = Recording.totalDelay recording.frames ∧
      Measures waits recording.frames ∧
      Holds recording.frames ((capture (settings.effectiveCommand process)).writes.map Prod.fst) ∧
      ((capture (settings.effectiveCommand process)).Forward finished →
        (FrameStream.total waits : Int) ≤
          finished - (capture (settings.effectiveCommand process)).start) := by
  have recorded := record_eq_ok terminal ended
  obtain ⟨waits, tail, stream, closes, all, data, delays, -⟩ :=
    FrameStream.writes_close settings.maxWait (capture (settings.effectiveCommand process)).start
      (capture (settings.effectiveCommand process)).writes finished
  dsimp only at recorded
  rw [closes] at recorded
  refine ⟨_, shownWaits waits tail, recorded, rfl, rfl, delay_withTail delays tail,
    holds_withTail data tail, fun forward => ?_⟩
  rw [total_shownWaits, all]
  refine Int.le_trans (FrameStream.total_waitsOf_forward forward).1 ?_
  rw [List.getLastD_concat, FrameStream.passed]

end RecordSettings

/-! ## Documents of recorded sessions -/

namespace Recording

variable {recording : Recording} {waits : List Duration}

private theorem timed_of_total (duration : recording.duration = totalDelay recording.frames)
    (finite : (totalDelay recording.frames).isFinite = true) : recording.Timed := by
  have delays := Binary64.isFinite_of_sum finite
  exact ⟨by rw [duration, finite], List.forall_mem_map.mp delays⟩

/-- The times of a recording are read back as numbers, and only those below zero as such. -/
structure Legible [Json.Rounding] (recording : Recording) : Prop where
  inRange : recording.InRange
  signs : ∀ frame ∈ recording.frames,
    frame.delay.readBack.isBelowZero = true → frame.delay.isBelowZero = true

section
variable [Json.Rounding]

private theorem forward_of_legible (legible : recording.Legible)
    (measures : RecordSettings.Measures waits recording.frames) : recording.Forward := by
  intro frame member
  obtain ⟨wait, delay⟩ := RecordSettings.exists_wait measures frame member
  have above : ¬ frame.delay.isBelowZero = true := by
    rw [delay, wait.isBelowZero_seconds]
    exact Bool.false_ne_true
  simpa using mt (legible.signs frame member) above

private theorem data_readBack :
    recording.readBack.frames.map Frame.data = recording.frames.map Frame.data := by
  rw [readBack, List.map_map]
  rfl

/-- Texts that are read as the nearest numbers are legible. -/
theorem legible_of_readsNearest (timed : recording.Timed) (nearest : recording.ReadsNearest) :
    recording.Legible := by
  refine ⟨inRange_of_readsNearest timed nearest, fun frame member => ?_⟩
  have finite := timed.delays frame member
  have text := isBelowZero_sixPlaces finite
  rw [Json.readBack_of_readsNearest finite (nearest.delays frame member), text]
  intro below
  by_contra above
  exact not_denotesBelowZero finite (by simpa using above) below

end

/-- The delays of a recording add up to a moderate number if its waits are together no longer than the
longest duration. -/
theorem moderate_of_waits (measures : RecordSettings.Measures waits recording.frames)
    (within : FrameStream.total waits ≤ Duration.longest.nanoseconds) :
    (totalDelay recording.frames).Moderate := by
  obtain ⟨finite, bound⟩ := Duration.sum_seconds within
  rw [totalDelay, measures]
  exact Binary64.moderate_of_le finite bound

/-- The times of a recording are legible if they add up to a moderate number. -/
theorem legible_of_total (duration : recording.duration = totalDelay recording.frames)
    (measures : RecordSettings.Measures waits recording.frames)
    (moderate : (totalDelay recording.frames).Moderate) : recording.Legible := by
  have delays (frame) (member : frame ∈ recording.frames) : frame.delay.Moderate := by
    have terms := Binary64.isFinite_of_sum moderate.1
    have above : ∀ delay ∈ recording.frames.map Frame.delay, delay.AtLeastZero := by
      refine fun delay inside => Binary64.atLeastZero_of_isFinite (terms delay inside) ?_
      obtain ⟨frame, member, rfl⟩ := List.mem_map.mp inside
      obtain ⟨wait, seconds⟩ := RecordSettings.exists_wait measures frame member
      rw [seconds, wait.isBelowZero_seconds]
    have inside : frame.delay ∈ recording.frames.map Frame.delay := List.mem_map_of_mem member
    exact moderate.of_le (terms _ inside) (Binary64.magnitude_le_sum above moderate.1 _ inside)
  have read (frame) (member : frame ∈ recording.frames) :=
    Binary64.readBack_of_moderate (delays frame member)
  have total := (Binary64.readBack_of_moderate moderate).1
  exact ⟨⟨duration ▸ total, fun frame member => (read frame member).1⟩,
    fun frame member => (read frame member).2⟩

end Recording

/-! ## Playing -/

namespace Player

variable {sink : Sink}

private theorem showFrame_takesAll (takes : sink.TakesAll) (frame : Frame) :
    ∃ after, showFrame sink frame = (.ok (), after) ∧ sink.Took frame.data after := by
  obtain ⟨written, writes, took⟩ := Sink.writeAll_takesAll takes frame.data
  obtain ⟨after, flushes, flushed⟩ := Sink.flush_takesAll took.takesAll
  refine ⟨after, ?_, ?_⟩
  · rw [showFrame, writes]
    exact flushes
  have whole := took.trans flushed
  rwa [List.append_nil] at whole

/-- A sink that takes everything takes the bytes of all frames in their order. -/
theorem showFrames_takesAll (takes : sink.TakesAll) (index : Nat) (frames : List Frame) :
    ∃ after, showFrames index sink frames = (.ok (), after) ∧
      sink.Took (frames.map Frame.data).flatten after := by
  induction frames generalizing index sink with
  | nil => exact ⟨sink, rfl, takes.nothing⟩
  | cons frame others ih =>
    obtain ⟨shown, shows, took⟩ := showFrame_takesAll takes frame
    obtain ⟨after, rest, tookRest⟩ := ih took.takesAll (index + 1)
    refine ⟨after, ?_, took.trans tookRest⟩
    rw [showFrames, shows]
    exact rest

end Player

/-! ## The whole way -/

private theorem flatten_of_holds {frames : List Frame} {chunks : List Bytes}
    (holds : RecordSettings.Holds frames chunks) : (frames.map Frame.data).flatten = chunks.flatten := by
  rcases holds with same | tail
  · rw [same]
  · rw [tail, List.flatten_append, List.flatten_singleton, List.append_nil]

/-- A capture that ends is recorded, whatever it wrote and whenever. If its delays add up to a number,
the recording has a document. Under any rounding of numbers by which the times in it are legible, the
document is read as a recording with a frame for each write and at most an empty one after them; a
player of any speed writes these frames to a sink that takes everything as exactly the bytes that were
captured. By the rounding of the readers the times are legible when the total is moderate, and it is
when time did not go back and the capture took no longer than the longest duration. Whatever the total
is, the times are legible when their texts are read as the nearest numbers. -/
theorem playback_of_capture (settings : RecordSettings) (process : Variables) (terminal : WindowSize)
    (capture : String → Capture) (finished : Instant) (player : Player) (sink : Sink)
    (ended : (capture (settings.effectiveCommand process)).outcome = .ok finished)
    (takes : sink.TakesAll) :
    ∃ recording, settings.record process terminal capture = .ok recording ∧
      ((Recording.totalDelay recording.frames).isFinite = true →
        ∃ text, recording.encode = .ok text ∧ ∀ [Json.Rounding], recording.Legible →
          ∃ decoded, Recording.decode (textBytes text) = .ok decoded ∧
            RecordSettings.Holds decoded.frames
              ((capture (settings.effectiveCommand process)).writes.map Prod.fst) ∧
            ∃ pauses after, player.play decoded.frames sink = (pauses, .ok (), after) ∧
              after.accepted = sink.accepted ++
                ((capture (settings.effectiveCommand process)).writes.map Prod.fst).flatten) ∧
      ((Recording.totalDelay recording.frames).Moderate → recording.Legible) ∧
      ((capture (settings.effectiveCommand process)).Forward finished →
        finished - (capture (settings.effectiveCommand process)).start ≤
          Duration.longest.nanoseconds →
        (Recording.totalDelay recording.frames).Moderate) ∧
      ((Recording.totalDelay recording.frames).isFinite = true → ∀ [Json.Rounding],
        recording.ReadsNearest → recording.Legible) := by
  obtain ⟨recording, waits, recorded, version, duration, measures, holds, short⟩ :=
    RecordSettings.record_of_ended terminal ended
  refine ⟨recording, recorded, fun finite => ?_, Recording.legible_of_total duration measures,
    fun forward within => ?_,
    fun finite => Recording.legible_of_readsNearest (Recording.timed_of_total duration finite)⟩
  case refine_2 =>
    exact Recording.moderate_of_waits measures (Int.ofNat_le.mp (Int.le_trans (short forward) within))
  have timed := Recording.timed_of_total duration finite
  refine ⟨recording.document, Recording.encode_timed timed, fun legible => ?_⟩
  have forward := Recording.forward_of_legible legible measures
  have again : RecordSettings.Holds recording.readBack.frames
      ((capture (settings.effectiveCommand process)).writes.map Prod.fst) := by
    rw [RecordSettings.Holds, Recording.data_readBack]
    exact holds
  obtain ⟨after, shows, took⟩ := Player.showFrames_takesAll takes 0 recording.readBack.frames
  refine ⟨recording.readBack, Recording.decode_document_ok timed legible.inRange version forward, again,
    _, after, by rw [Player.play, shows], ?_⟩
  rw [took.accepted, flatten_of_holds again]

/-- A character that two chunks share and a byte of no character come out of the player again. -/
theorem playback_of_split_chunks :
    ∃ recording, (RecordSettings.record {} [] .usual fun _ =>
        ⟨0, [([0xe2, 0x82], 1500000000), ([], 1500000000), ([0xac, 0xff], 2000000001)], .ok 2000000001⟩) =
          .ok recording ∧
      ∃ text decoded, recording.encode = .ok text ∧
        Recording.decode (textBytes text) = .ok decoded ∧
        RecordSettings.Holds decoded.frames [[0xe2, 0x82], [], [0xac, 0xff]] ∧
        ∃ pauses after, (Player.mk {} (by decide +kernel)).play decoded.frames (.replying []) =
            (pauses, .ok (), after) ∧ after.accepted = [0xe2, 0x82, 0xac, 0xff] := by
  have takes : (Sink.replying []).TakesAll := ⟨List.forall_mem_nil _, List.forall_mem_nil _⟩
  obtain ⟨recording, recorded, whole, legible, moderate, -⟩ := playback_of_capture {} [] .usual (fun _ =>
    ⟨0, [([0xe2, 0x82], 1500000000), ([], 1500000000), ([0xac, 0xff], 2000000001)], .ok 2000000001⟩)
    2000000001 (Player.mk {} (by decide +kernel)) (.replying []) rfl takes
  obtain rfl := Except.ok.inj recorded
  have brief := moderate (by decide) (by decide)
  obtain ⟨text, written, read⟩ := whole brief.1
  obtain ⟨decoded, decoding, plays⟩ := read (legible brief)
  exact ⟨_, recorded, text, decoded, written, decoding, plays⟩

end TermTape

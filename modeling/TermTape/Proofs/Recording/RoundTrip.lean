import Mathlib.Data.List.Forall2
import TermTape.Proofs.Json.Rounding
import TermTape.Proofs.Recording.Document

/-!
# Documents, there and back

A recording has a document exactly when its times are numbers, and this document is read as the
recording again, its times as they are read back from their texts (`decode_document_ok`). Where these
texts are read as the nearest numbers, the times are those that the texts denote
(`document_round_trip`), and a document that was read and written anew stays the same from then on
(`recode_idempotent`). A correct rounding reads all texts so (`readsNearest_of_round`), and the rounding
of the readers those of brief times (`readsNearest_of_brief`).
-/
namespace TermTape.Recording

/-! ## Writing -/

/-- The times of a recording are numbers. -/
structure Timed (recording : Recording) : Prop where
  duration : recording.duration.isFinite = true
  delays : ∀ frame ∈ recording.frames, frame.delay.isFinite = true

/-- The document of a recording whose times are numbers. -/
def document (recording : Recording) : String :=
  String.join (Json.Print.object 0 (recording.members (recording.frames.map Frame.text)))

private theorem frameTexts_timed {frames : List Frame}
    (delays : ∀ frame ∈ frames, frame.delay.isFinite = true) :
    frameTexts frames = .ok (frames.map Frame.text) := by
  induction frames with
  | nil => rfl
  | cons frame others ih =>
    obtain ⟨first, more⟩ := List.forall_mem_cons.mp delays
    rw [frameTexts, if_pos first, ih more]
    rfl

private theorem delays_of_frameTexts {frames : List Frame} {texts : List String}
    (written : frameTexts frames = .ok texts) : ∀ frame ∈ frames, frame.delay.isFinite = true := by
  induction frames generalizing texts with
  | nil => exact List.forall_mem_nil _
  | cons frame others ih =>
    rw [frameTexts] at written
    split at written
    · obtain ⟨rest, later, -⟩ := ok_of_map written
      exact List.forall_mem_cons.mpr ⟨‹_›, ih later⟩
    · cases written

theorem encode_timed {recording : Recording} (timed : recording.Timed) :
    recording.encode = .ok recording.document := by
  rw [encode, segments, if_pos timed.duration, frameTexts_timed timed.delays]
  rfl

theorem timed_of_encode {recording : Recording} {text : String} (written : recording.encode = .ok text) :
    recording.Timed := by
  rw [encode, segments] at written
  split at written
  · obtain ⟨segments, made, -⟩ := ok_of_map written
    obtain ⟨texts, frames, -⟩ := ok_of_map made
    exact ⟨‹_›, delays_of_frameTexts frames⟩
  · cases written

/-- A recording has a document exactly when its times are numbers. -/
theorem encode_eq_ok {recording : Recording} {text : String} :
    recording.encode = .ok text ↔ recording.Timed ∧ text = recording.document := by
  constructor
  · intro written
    have timed := timed_of_encode written
    rw [encode_timed timed] at written
    exact ⟨timed, (Except.ok.inj written).symm⟩
  · rintro ⟨timed, rfl⟩
    exact encode_timed timed

/-! ## Reading what was written -/

theorem textBytes_document (recording : Recording) :
    textBytes recording.document =
      Json.Print.bytes (Json.Print.object 0 (recording.members (recording.frames.map Frame.text))) :=
  Json.Print.textBytes_join _

section
variable [Json.Rounding]

/-- A recording with the times that are read back from their texts. -/
def readBack (recording : Recording) : Recording :=
  { recording with
    duration := recording.duration.readBack
    frames := recording.frames.map Frame.readBack }

/-- The times of a recording are read back as numbers. -/
structure InRange (recording : Recording) : Prop where
  duration : recording.duration.readBack.isFinite = true
  delays : ∀ frame ∈ recording.frames, frame.delay.readBack.isFinite = true

/-- No delay of a recording is read back as a number below zero. -/
def Forward (recording : Recording) : Prop :=
  ∀ frame ∈ recording.frames, frame.delay.readBack.isBelowZero = false

private theorem decode_document {recording : Recording} (timed : recording.Timed)
    (inRange : recording.InRange) :
    decode (textBytes recording.document) = ofHeader (documentHeader recording) := by
  rw [decode, decodeFrom, textBytes_document,
    readHeader_document timed.duration inRange.duration timed.delays]
  rfl

/-- The document of a recording is read as the recording with the times that are read back from it,
when it has the current version and no delay is below zero then. -/
theorem decode_document_ok {recording : Recording} (timed : recording.Timed)
    (inRange : recording.InRange) (version : recording.version = currentVersion)
    (forward : recording.Forward) :
    decode (textBytes recording.document) = .ok recording.readBack := by
  have frames := decodeFrames_texts 0 timed.delays inRange.delays forward
  rw [decode_document timed inRange, ofHeader]
  simp [documentHeader, version, frames, readBack, bind, Except.bind]

/-- A document that is read has the current version and no delay below zero. -/
theorem forward_of_decode {recording decoded : Recording} (timed : recording.Timed)
    (inRange : recording.InRange) (read : decode (textBytes recording.document) = .ok decoded) :
    recording.version = currentVersion ∧ recording.Forward := by
  rw [decode_document timed inRange, ofHeader] at read
  split at read
  · cases read
  · rename_i same
    obtain ⟨others, frames, -⟩ := ok_of_bind read
    have version : recording.version.toNat = currentVersion.toNat := by
      simpa [documentHeader] using same
    exact ⟨UInt32.toNat_inj.mp version, forward_of_decodeFrames timed.delays inRange.delays frames⟩

/-! ## Texts that are read as the nearest numbers -/

/-- The texts of the times of a recording are read as the numbers nearest to them. -/
structure ReadsNearest (recording : Recording) : Prop where
  duration : recording.duration.ReadsNearest
  delays : ∀ frame ∈ recording.frames, frame.delay.ReadsNearest

/-- Where every number is rounded to the nearest, the texts of all recordings are. -/
theorem readsNearest_of_round (nearest : ∀ parts, Json.Rounding.round parts = parts.nearest)
    (recording : Recording) : recording.ReadsNearest :=
  ⟨nearest _, fun _ _ => nearest _⟩

variable {recording : Recording}

theorem inRange_of_readsNearest (timed : recording.Timed) (nearest : recording.ReadsNearest) :
    recording.InRange := by
  refine ⟨?_, fun frame member => ?_⟩
  · rw [Json.readBack_of_readsNearest timed.duration nearest.duration]
    exact isFinite_sixPlaces timed.duration
  · have finite := timed.delays frame member
    rw [Json.readBack_of_readsNearest finite (nearest.delays frame member)]
    exact isFinite_sixPlaces finite

/-- A nearest number is below zero exactly when its text is. -/
theorem forward_iff_of_readsNearest (timed : recording.Timed) (nearest : recording.ReadsNearest) :
    recording.Forward ↔ ∀ frame ∈ recording.frames, ¬ DenotesBelowZero (frame.delay.fixed 6) := by
  refine forall₂_congr fun frame member => ?_
  have finite := timed.delays frame member
  rw [Json.readBack_of_readsNearest finite (nearest.delays frame member),
    ← isBelowZero_sixPlaces finite, Bool.not_eq_true]

end

/-- By the rounding of the readers, so are the texts of brief times. -/
theorem readsNearest_of_brief {recording : Recording} (duration : recording.duration.Brief)
    (delays : ∀ frame ∈ recording.frames, frame.delay.Brief) : recording.ReadsNearest :=
  ⟨Binary64.readsNearest_of_brief duration,
    fun frame member => Binary64.readsNearest_of_brief (delays frame member)⟩

/-! ## Round trips -/

/-- A recording has a document exactly when its times are numbers. Where their texts are read as the
nearest numbers, the document is read exactly when its version is the current one and no delay has a
text below zero, and then as the recording again, each time as the number that its own text
denotes. -/
theorem document_round_trip [Json.Rounding] (recording : Recording) :
    ((∃ text, recording.encode = .ok text) ↔
      recording.duration.isFinite = true ∧
        ∀ frame ∈ recording.frames, frame.delay.isFinite = true) ∧
    ∀ text, recording.encode = .ok text → recording.ReadsNearest →
      ((∃ decoded, decode (textBytes text) = .ok decoded) ↔
        recording.version = 1 ∧
          ∀ frame ∈ recording.frames, ¬ DenotesBelowZero (frame.delay.fixed 6)) ∧
      ∀ decoded, decode (textBytes text) = .ok decoded →
        decoded.width = recording.width ∧ decoded.height = recording.height ∧
        decoded.command = recording.command ∧ decoded.title = recording.title ∧
        decoded.env = recording.env ∧
        readReal (recording.duration.fixed 6) = .ok decoded.duration ∧
        List.Forall₂ (fun written read =>
          read.data = written.data ∧ readReal (written.delay.fixed 6) = .ok read.delay)
          recording.frames decoded.frames := by
  refine ⟨⟨?_, fun timed => ⟨_, encode_timed ⟨timed.1, timed.2⟩⟩⟩, fun text written nearest => ?_⟩
  · rintro ⟨text, written⟩
    have timed := timed_of_encode written
    exact ⟨timed.duration, timed.delays⟩
  obtain ⟨timed, rfl⟩ := encode_eq_ok.mp written
  have inRange := inRange_of_readsNearest timed nearest
  rw [← forward_iff_of_readsNearest timed nearest]
  refine ⟨⟨?_, fun current => ⟨_, decode_document_ok timed inRange current.1 current.2⟩⟩,
    fun decoded read => ?_⟩
  · rintro ⟨decoded, read⟩
    exact forward_of_decode timed inRange read
  obtain ⟨version, forward⟩ := forward_of_decode timed inRange read
  rw [decode_document_ok timed inRange version forward] at read
  obtain rfl := Except.ok.inj read
  have denoted {x : Binary64} (finite : x.isFinite = true) (nearest : x.ReadsNearest) :
      readReal (x.fixed 6) = .ok x.readBack := by
    rw [Json.readBack_of_readsNearest finite nearest, readReal_sixPlaces finite]
  refine ⟨rfl, rfl, rfl, rfl, rfl, denoted timed.duration nearest.duration, ?_⟩
  simp only [readBack, List.forall₂_map_right_iff, List.forall₂_same]
  exact fun frame member =>
    ⟨rfl, denoted (timed.delays frame member) (nearest.delays frame member)⟩

/-- A stray byte after the delay of the negative zero makes the round trip. -/
theorem document_round_trip_stray :
    ∃ text decoded, (ofFrames 80 24 [⟨.zero true, [0x68, 0xff]⟩]).encode = .ok text ∧
      decode (textBytes text) = .ok decoded ∧ decoded.frames.map Frame.data = [[0x68, 0xff]] := by
  obtain ⟨written, read⟩ := document_round_trip (ofFrames 80 24 [⟨.zero true, [0x68, 0xff]⟩])
  obtain ⟨text, encoded⟩ := written.mpr ⟨by decide, by decide⟩
  have nearest : (ofFrames 80 24 [⟨.zero true, [0x68, 0xff]⟩]).ReadsNearest :=
    readsNearest_of_brief (by decide +kernel) (by decide +kernel)
  have forward : ∀ frame ∈ (ofFrames 80 24 [⟨.zero true, [0x68, 0xff]⟩]).frames,
      ¬ DenotesBelowZero (frame.delay.fixed 6) :=
    List.forall_mem_singleton.mpr (not_denotesBelowZero rfl rfl)
  obtain ⟨current, same⟩ := read text encoded nearest
  obtain ⟨decoded, decoding⟩ := current.mpr ⟨rfl, forward⟩
  obtain ⟨-, -, -, -, -, -, frames⟩ := same decoded decoding
  refine ⟨text, decoded, encoded, decoding, ?_⟩
  obtain ⟨frame, others, ⟨data, -⟩, none, list⟩ := List.forall₂_cons_left_iff.mp frames
  rw [list, List.forall₂_nil_left_iff.mp none, List.map_singleton, data]

section
variable [Json.Rounding]

private theorem delay_of_decodeFrame {raw : Bytes} {frame : Frame}
    (read : decodeFrame raw = .ok frame) :
    frame.delay.isFinite = true ∧ frame.delay.isBelowZero = false := by
  obtain ⟨⟨delay, text⟩, -, read⟩ := ok_of_bind read
  dsimp only at read
  split at read
  · rename_i valid
    obtain ⟨data, -, read⟩ := ok_of_bind read
    obtain rfl := Except.ok.inj read
    simpa using valid
  · cases read

private theorem delays_of_decodeFrames {raws : List Bytes} {frames : List Frame} {index : Nat}
    (read : decodeFrames index raws = .ok frames) :
    ∀ frame ∈ frames, frame.delay.isFinite = true ∧ frame.delay.isBelowZero = false := by
  induction raws generalizing frames index with
  | nil =>
    obtain rfl := Except.ok.inj read
    exact List.forall_mem_nil _
  | cons raw others ih =>
    rw [decodeFrames] at read
    split at read
    · cases read
    · rename_i frame first
      obtain ⟨rest, later, rfl⟩ := ok_of_map read
      exact List.forall_mem_cons.mpr ⟨delay_of_decodeFrame first, ih later⟩

/-- A recording that was read has the current version, and delays that are no less than zero. -/
theorem decode_forward {input : Bytes} {recording : Recording} (read : decode input = .ok recording) :
    recording.version = currentVersion ∧
      ∀ frame ∈ recording.frames, frame.delay.isFinite = true ∧ frame.delay.isBelowZero = false := by
  obtain ⟨header, -, read⟩ := ok_of_bind read
  rw [ofHeader] at read
  split at read
  · cases read
  · obtain ⟨frames, decoded, read⟩ := ok_of_bind read
    obtain rfl := Except.ok.inj read
    exact ⟨rfl, delays_of_decodeFrames decoded⟩

variable {recording : Recording}

private theorem document_readBack (timed : recording.Timed) (nearest : recording.ReadsNearest) :
    recording.readBack.document = recording.document := by
  have same {x : Binary64} (finite : x.isFinite = true) (nearest : x.ReadsNearest) :
      x.readBack.fixed 6 = x.fixed 6 := by
    rw [Json.readBack_of_readsNearest finite nearest, fixed_sixPlaces]
  have texts : recording.readBack.frames.map Frame.text = recording.frames.map Frame.text := by
    rw [readBack, List.map_map]
    refine List.map_congr_left fun frame member => ?_
    simp only [Function.comp_apply, Frame.text, Frame.readBack,
      same (timed.delays frame member) (nearest.delays frame member)]
  rw [document, texts, document]
  simp only [members, readBack, same timed.duration nearest.duration]

private theorem timed_readBack (inRange : recording.InRange) : recording.readBack.Timed := by
  refine ⟨inRange.duration, ?_⟩
  rw [readBack, List.forall_mem_map]
  exact inRange.delays

end

/-- A document that was read and written anew is read and written anew as the same text, where the
texts of its times are read as the nearest numbers. -/
theorem recode_idempotent [Json.Rounding] (input : Bytes) (recording : Recording) (text : String)
    (read : decode input = .ok recording) (written : recording.encode = .ok text)
    (nearest : recording.ReadsNearest) :
    ∃ again, decode (textBytes text) = .ok again ∧ again.encode = .ok text := by
  obtain ⟨timed, rfl⟩ := encode_eq_ok.mp written
  obtain ⟨version, delays⟩ := decode_forward read
  have inRange := inRange_of_readsNearest timed nearest
  have forward : recording.Forward := (forward_iff_of_readsNearest timed nearest).mpr
    fun frame member => not_denotesBelowZero (delays frame member).1 (delays frame member).2
  refine ⟨recording.readBack, decode_document_ok timed inRange version forward, ?_⟩
  rw [encode_timed (timed_readBack inRange), document_readBack timed nearest]

theorem recode_idempotent_stray :
    ∃ input recording text, decode input = .ok recording ∧ recording.encode = .ok text ∧
      (∃ again, decode (textBytes text) = .ok again ∧ again.encode = .ok text) ∧
      recording.frames.map Frame.data = [[0x68, 0xff]] := by
  let stray := ofFrames 80 24 [⟨.zero true, [0x68, 0xff]⟩]
  have timed : stray.Timed := ⟨by decide, by decide⟩
  have nearest : stray.ReadsNearest := readsNearest_of_brief (by decide +kernel) (by decide +kernel)
  have inRange := inRange_of_readsNearest timed nearest
  have forward : stray.Forward := List.forall_mem_singleton.mpr (by decide +kernel)
  have read := decode_document_ok timed inRange rfl forward
  have written := encode_timed (timed_readBack inRange)
  have again : stray.readBack.ReadsNearest :=
    readsNearest_of_brief (by decide +kernel) (by decide +kernel)
  exact ⟨_, _, _, read, written, recode_idempotent _ _ _ read written again, rfl⟩

end TermTape.Recording

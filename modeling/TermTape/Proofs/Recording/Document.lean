import TermTape.Proofs.Json.Layout
import TermTape.Proofs.Recording.FrameText
import TermTape.Recording.Decode
import TermTape.Recording.Write

/-!
# Reading written documents

The header of a written document is read field by field (`readHeader_document`), and a frame as it is
written is decoded to its bytes and to the delay that its text gives (`decodeFrame_text`). The times
have to be in range when they are read back; to which numbers their texts are rounded does not matter.
-/
namespace TermTape

open Json (Gives Blank Follows Reads ReadsMembers ReadsItems Opens Ending Reader byte)

variable {ending : Ending} {rest : Bytes}

/-! ## Fields -/

namespace Json

variable [Rounding]

private theorem reads_whole {limit n : Nat} {expected : String} (small : n ≤ limit)
    (fits : limit ≤ greatestWhole) :
    Reads (readWholeUpTo ending limit expected) [wholeText n] n := by
  intro gap b rest blank follows
  rw [Print.bytes_cons, Print.bytes_nil, List.append_nil]
  exact readWholeUpTo_gives small
    (readAnyNumber_whole blank follows.delimits (Nat.le_trans small fits))

private theorem reads_string (text : String) :
    Reads (readString ending) (Print.string text) text := by
  intro gap b rest blank _
  rw [Print.bytes_string, quoted, List.cons_append, List.append_assoc, List.singleton_append]
  exact readString_gives (skipGap_solid blank rfl _) (readText_printed ending text _)

private theorem reads_optionalReal {x : Binary64} (finite : x.isFinite = true)
    (inRange : x.readBack.isFinite = true) :
    Reads (readOptionalReal ending) [x.fixed 6] (some x.readBack) := by
  intro gap b rest blank follows
  rw [Print.bytes_cons, Print.bytes_nil, List.append_nil]
  obtain ⟨first, more, text, leads⟩ := textBytes_fixed_cons finite
  have next : skipGap (gap ++ (textBytes (x.fixed 6) ++ b :: rest)) = first :: (more ++ b :: rest) := by
    rw [text]
    exact skipGap_solid blank leads.solid _
  exact readOptionalReal_gives next (leads.ne (by decide))
    (readReal_gives (readAnyNumber_fixed finite inRange blank follows.delimits))

end Json

/-- A frame with the delay that is read back from its text. -/
def Frame.readBack [Json.Rounding] (frame : Frame) : Frame := ⟨frame.delay.readBack, frame.data⟩

/-! ## Frames as they are written -/

/-- The bytes of a written frame. -/
theorem textBytes_frame (frame : Frame) :
    textBytes frame.text =
      Json.pair (textBytes (frame.delay.fixed 6)) (textBytes (FrameText.encode frame.data)) := by
  have opening : textBytes "[" = [byte '['] := rfl
  have comma : textBytes ", " = [byte ',', byte ' '] := rfl
  have closing : textBytes "]" = [byte ']'] := rfl
  simp [Frame.text, textBytes_append, Json.pair, opening, comma, closing]

private theorem isSome_decode?_textBytes (text : String) :
    (Utf8.decode? (textBytes text)).isSome = true := by
  rw [textBytes, Utf8.decode?_encode]
  rfl

private theorem opens_frame (frame : Frame) : Opens [frame.text] := by
  refine ⟨byte '[', (textBytes frame.text).tail, ?_, rfl, by decide⟩
  rw [Json.Print.bytes_cons, Json.Print.bytes_nil, List.append_nil, textBytes_frame]
  rfl

private theorem reads_frame {frame : Frame} (finite : frame.delay.isFinite = true) :
    Reads (Json.readRaw ending) [frame.text] (textBytes frame.text) := by
  intro gap b rest blank _
  rw [Json.Print.bytes_cons, Json.Print.bytes_nil, List.append_nil]
  have start : Json.skipGap (gap ++ (textBytes frame.text ++ b :: rest)) =
      textBytes frame.text ++ b :: rest := by
    rw [textBytes_frame]
    exact Json.skipGap_solid blank rfl _
  refine Json.readRaw_gives ?_ (isSome_decode?_textBytes frame.text)
  rw [start, textBytes_frame, FrameText.textBytes_encode]
  exact Json.readWritten_pair finite (FrameText.stringBody_body frame.data) (b :: rest)

private theorem reads_frames {frames : List Frame}
    (finite : ∀ frame ∈ frames, frame.delay.isFinite = true) :
    ReadsItems (Json.readRaw ending) (frames.map fun frame => [frame.text])
      (frames.map fun frame => textBytes frame.text) := by
  induction frames with
  | nil => exact .nil
  | cons frame others ih =>
    obtain ⟨first, more⟩ := List.forall_mem_cons.mp finite
    exact .cons (opens_frame frame) (reads_frame first) (ih more)

namespace Recording

private theorem nextField_text (data rest : Bytes) :
    Gives (Json.nextField .ends false (Json.readRaw .ends)
      (byte ',' :: byte ' ' :: (textBytes (FrameText.encode data) ++ rest)))
      (some (textBytes (FrameText.encode data))) rest := by
  have solid : Json.skipGap (textBytes (FrameText.encode data) ++ rest) =
      textBytes (FrameText.encode data) ++ rest := by
    rw [FrameText.textBytes_encode]
    exact Json.skipGap_cons rfl _
  have written : Gives (Json.readWritten .ends (Json.skipGap (textBytes (FrameText.encode data) ++ rest)))
      (textBytes (FrameText.encode data)) rest := by
    rw [solid, FrameText.textBytes_encode]
    exact Json.readWritten_string (FrameText.stringBody_body data) rest
  refine Json.nextField_gives ?_ (Json.readRaw_gives written (isSome_decode?_textBytes _))
  rw [FrameText.textBytes_encode]
  exact Json.nextItem_later (Json.skipGap_cons rfl _) rfl (by decide)

private theorem fieldValue_gives {α σ : Type} {value : Reader α} {printed : List String} {x : α}
    {b : UInt8}
    (key : String) (put : Option α → σ) (reads : Reads value printed x) (follows : Follows b) :
    Gives (fieldValue ending key none value put
      (byte ':' :: byte ' ' :: (Json.Print.bytes printed ++ b :: rest))) (put (some x)) (b :: rest) := by
  have blank : Blank [byte ' '] := List.forall_mem_singleton.mpr rfl
  have colon : Json.Leaves (Json.readColon ending
      (byte ':' :: ([byte ' '] ++ (Json.Print.bytes printed ++ b :: rest))))
      ([byte ' '] ++ (Json.Print.bytes printed ++ b :: rest)) :=
    Json.readColon_leaves (Json.skipGap_cons rfl _)
  obtain ⟨h, given⟩ := Json.memberValue_gives colon (reads [byte ' '] b rest blank follows)
  refine ⟨h, ?_⟩
  change fieldValue ending key none value put
    (byte ':' :: ([byte ' '] ++ (Json.Print.bytes printed ++ b :: rest))) = _
  simp only [fieldValue, given, bind, Except.bind]
  rfl

variable [Json.Rounding]

theorem framePair_gives {input middle left text : Bytes} {delay : Binary64}
    (number : Gives (Json.nextField .ends true (Json.readReal .ends) input) (some delay) middle)
    (string : Gives (Json.nextField .ends false (Json.readRaw .ends) middle) (some text) left) :
    Gives (framePair input) (delay, text) left := by
  obtain ⟨h, number⟩ := number
  obtain ⟨h₂, string⟩ := string
  exact ⟨Nat.le_trans h₂ h, by simp [framePair, number, string, bind, Except.bind]⟩

private theorem nextField_delay {x : Binary64} (finite : x.isFinite = true)
    (inRange : x.readBack.isFinite = true) (rest : Bytes) :
    Gives (Json.nextField .ends true (Json.readReal .ends) (textBytes (x.fixed 6) ++ byte ',' :: rest))
      (some x.readBack) (byte ',' :: rest) := by
  obtain ⟨first, more, text, leads⟩ := Json.textBytes_fixed_cons finite
  have number : Gives (Json.readAnyNumber .ends "f64" (textBytes (x.fixed 6) ++ byte ',' :: rest))
      (.real x.readBack) (byte ',' :: rest) :=
    Json.readAnyNumber_fixed finite inRange (List.forall_mem_nil _) (Follows.delimits (.inl rfl))
  refine Json.nextField_gives ?_ (Json.readReal_gives number)
  rw [text]
  exact Json.nextItem_first (Json.skipGap_cons leads.solid _) (leads.ne (by decide))

/-- A written frame is read as the number of its delay and its text as it is written. -/
theorem readPair_text {frame : Frame} (finite : frame.delay.isFinite = true)
    (inRange : frame.delay.readBack.isFinite = true) :
    readPair (textBytes frame.text) =
      .ok (frame.delay.readBack, textBytes (FrameText.encode frame.data)) := by
  have pair : Gives (Json.readBracketed .ends "a tuple of size 2" framePair none (textBytes frame.text))
      (frame.delay.readBack, textBytes (FrameText.encode frame.data)) [] := by
    rw [textBytes_frame]
    exact Json.readBracketed_list (Json.skipGap_cons rfl _)
      (framePair_gives (nextField_delay finite inRange _) (nextField_text frame.data _))
      (Json.closeList_leaves (Json.skipGap_cons rfl []))
  obtain ⟨h, pair⟩ := pair
  simp [readPair, pair, bind, Except.bind, Json.readEnd, Json.skipGap, Json.Ending.look]

/-! ## The header -/

private theorem reads_environment (env : Environment) :
    Reads (readEnvironment ending) (Json.Print.object 1
      [("TERM", Json.Print.string env.term), ("SHELL", Json.Print.string env.shell)]) env := by
  have members : ReadsMembers (environmentMember ending) {}
      [("TERM", Json.Print.string env.term), ("SHELL", Json.Print.string env.shell)]
      ⟨some env.term, some env.shell⟩ := by
    apply ReadsMembers.cons
    · simp only [environmentMember, String.reduceBEq, if_true]
      exact fun _ _ => fieldValue_gives "TERM" _ (Json.reads_string env.term)
    apply ReadsMembers.cons
    · simp only [environmentMember, String.reduceBEq, Bool.false_eq_true, if_false, if_true]
      exact fun _ _ => fieldValue_gives "SHELL" _ (Json.reads_string env.shell)
    exact .nil _
  intro gap b rest blank _
  refine Json.readBracketed_printed members (fun input left given => ?_) 1 blank (b :: rest)
  obtain ⟨h, given⟩ := given
  exact ⟨h, by simp [environmentObject, given, EnvironmentFields.environment, bind, Except.bind]⟩

/-- The header of the document of a recording, its frames as they are written. -/
def documentHeader (recording : Recording) : Header where
  version := recording.version.toNat
  width := recording.width.toNat
  height := recording.height.toNat
  duration := some recording.duration.readBack
  command := recording.command
  title := recording.title
  env := recording.env
  stdout := recording.frames.map fun frame => textBytes frame.text

private theorem reads_members {recording : Recording}
    (duration : recording.duration.isFinite = true)
    (inRange : recording.duration.readBack.isFinite = true)
    (delays : ∀ frame ∈ recording.frames, frame.delay.isFinite = true) :
    ReadsMembers (documentMember ending) {} (recording.members (recording.frames.map Frame.text))
      { version := some recording.version.toNat, width := some recording.width.toNat,
        height := some recording.height.toNat, duration := some (some recording.duration.readBack),
        command := some recording.command, title := some recording.title, env := some recording.env,
        stdout := some (recording.frames.map fun frame => textBytes frame.text) } := by
  have version : recording.version.toNat ≤ Json.greatestWhole :=
    Nat.le_trans (Nat.le_of_lt recording.version.toNat_lt) (by decide)
  have width : recording.width.toNat ≤ 65535 := Nat.le_of_lt_succ recording.width.toNat_lt
  have height : recording.height.toNat ≤ 65535 := Nat.le_of_lt_succ recording.height.toNat_lt
  have fits : 65535 ≤ Json.greatestWhole := by decide
  have frames : Reads (readRawFrames ending)
      (Json.Print.list 1 ((recording.frames.map Frame.text).map fun text => [text]))
      (recording.frames.map fun frame => textBytes frame.text) := by
    intro gap b rest blank _
    rw [List.map_map]
    exact Json.readListOf_printed (reads_frames delays) 1 blank (b :: rest)
  apply ReadsMembers.cons
  · simp only [documentMember]
    exact fun _ _ => fieldValue_gives "version" _ (Json.reads_whole version (Nat.le_refl _))
  apply ReadsMembers.cons
  · simp only [documentMember]
    exact fun _ _ => fieldValue_gives "width" _ (Json.reads_whole width fits)
  apply ReadsMembers.cons
  · simp only [documentMember]
    exact fun _ _ => fieldValue_gives "height" _ (Json.reads_whole height fits)
  apply ReadsMembers.cons
  · simp only [documentMember]
    exact fun _ _ => fieldValue_gives "duration" _ (Json.reads_optionalReal duration inRange)
  apply ReadsMembers.cons
  · simp only [documentMember]
    exact fun _ _ => fieldValue_gives "command" _ (Json.reads_string recording.command)
  apply ReadsMembers.cons
  · simp only [documentMember]
    exact fun _ _ => fieldValue_gives "title" _ (Json.reads_string recording.title)
  apply ReadsMembers.cons
  · simp only [documentMember]
    exact fun _ _ => fieldValue_gives "env" _ (reads_environment recording.env)
  apply ReadsMembers.cons
  · simp only [documentMember]
    exact fun _ _ => fieldValue_gives "stdout" _ frames
  exact .nil _

theorem documentObject_gives {fields : Fields} {header : Header} {input left : Bytes}
    (members : Gives (Json.readMembers ending (documentMember ending) true {} input) fields left)
    (complete : fields.header = .ok header) : Gives (documentObject ending input) header left := by
  obtain ⟨h, members⟩ := members
  exact ⟨h, by simp [documentObject, members, complete, bind, Except.bind]⟩

/-- The header of a written document is read field by field. -/
theorem readHeader_document {recording : Recording} (duration : recording.duration.isFinite = true)
    (inRange : recording.duration.readBack.isFinite = true)
    (delays : ∀ frame ∈ recording.frames, frame.delay.isFinite = true) :
    readHeader .ends (Json.Print.bytes
      (Json.Print.object 0 (recording.members (recording.frames.map Frame.text)))) =
        .ok (documentHeader recording) := by
  have blank : Blank [] := List.forall_mem_nil _
  have given : Gives (Json.readBracketed .ends "struct RawDocument" (documentList .ends)
      (some (documentObject .ends)) (Json.Print.bytes
        (Json.Print.object 0 (recording.members (recording.frames.map Frame.text))) ++ []))
      (documentHeader recording) [] :=
    Json.readBracketed_printed (reads_members duration inRange delays)
      (fun input left members => documentObject_gives members rfl) 0 blank []
  rw [List.append_nil] at given
  obtain ⟨h, given⟩ := given
  simp [readHeader, given, bind, Except.bind, Json.readEnd, Json.skipGap, Json.Ending.look]

/-! ## Frames -/

/-- A written frame is decoded to the number that its delay is read back as and to its bytes, unless
this number is below zero. -/
theorem decodeFrame_text {frame : Frame} (finite : frame.delay.isFinite = true)
    (inRange : frame.delay.readBack.isFinite = true) :
    decodeFrame (textBytes frame.text) =
      if frame.delay.readBack.isBelowZero then .error (.negativeDelay frame.delay.readBack)
      else .ok frame.readBack := by
  have read := readPair_text finite inRange
  cases below : frame.delay.readBack.isBelowZero with
  | true => simp [decodeFrame, read, below, Except.mapError, bind, Except.bind]
  | false =>
    simp [decodeFrame, read, below, inRange, Except.mapError, FrameText.decode_encode,
      Frame.readBack, bind, Except.bind]

/-- Written frames are decoded when none of their delays is read back as a number below zero. -/
theorem decodeFrames_texts {frames : List Frame} (index : Nat)
    (finite : ∀ frame ∈ frames, frame.delay.isFinite = true)
    (inRange : ∀ frame ∈ frames, frame.delay.readBack.isFinite = true)
    (forward : ∀ frame ∈ frames, frame.delay.readBack.isBelowZero = false) :
    decodeFrames index (frames.map fun frame => textBytes frame.text) =
      .ok (frames.map Frame.readBack) := by
  induction frames generalizing index with
  | nil => rfl
  | cons frame others ih =>
    obtain ⟨number, more⟩ := List.forall_mem_cons.mp finite
    obtain ⟨read, later⟩ := List.forall_mem_cons.mp inRange
    obtain ⟨above, rest⟩ := List.forall_mem_cons.mp forward
    simp [decodeFrames, decodeFrame_text number read, above, ih (index + 1) more later rest, Except.map]

theorem forward_of_decodeFrames {frames decoded : List Frame} {index : Nat}
    (finite : ∀ frame ∈ frames, frame.delay.isFinite = true)
    (inRange : ∀ frame ∈ frames, frame.delay.readBack.isFinite = true)
    (read : decodeFrames index (frames.map fun frame => textBytes frame.text) = .ok decoded) :
    ∀ frame ∈ frames, frame.delay.readBack.isBelowZero = false := by
  induction frames generalizing index decoded with
  | nil => exact List.forall_mem_nil _
  | cons frame others ih =>
    obtain ⟨number, more⟩ := List.forall_mem_cons.mp finite
    obtain ⟨back, later⟩ := List.forall_mem_cons.mp inRange
    rw [List.map_cons, decodeFrames, decodeFrame_text number back] at read
    cases below : frame.delay.readBack.isBelowZero with
    | true => simp [below] at read
    | false =>
      simp only [below, Bool.false_eq_true, if_false] at read
      obtain ⟨rest, decoding, -⟩ := ok_of_map read
      exact List.forall_mem_cons.mpr ⟨below, ih more later decoding⟩

end Recording

end TermTape

import Mathlib.Data.List.TakeWhile
import TermTape.Fault
import TermTape.Proofs.Json.SettledValues
import TermTape.Proofs.Recording.RoundTrip

/-!
# Documents that are cut short

A document ends with a closing bracket, and only blanks may follow it. So a document that lacks its
last byte apart from blanks is malformed, and a source that fails before it has ended hides what it
was to yield: its failure is the fault of the document.
-/
namespace TermTape.Recording

open Json (Reader Settles RunsOut Yields Alike Spent Never)

variable {α β σ : Type} {p : Bytes → Prop} {ending ending' : Json.Ending} {tail : Bytes}

/-! ## Members -/

private theorem fieldValue_settles {value value' : Reader α}
    (settles : ∀ input, Settles ending (Alike tail) Spent (value input) (value' (input ++ tail)))
    (key : String) (present : Option α) (put : Option α → σ) (input : Bytes) :
    Settles ending (Alike tail) Spent (fieldValue ending key present value put input)
      (fieldValue ending' key present value' put (input ++ tail)) := by
  unfold fieldValue
  split
  · exact .refused nofun
  · exact (Json.memberValue_settles settles input).keep (fun x => put (some x))

private theorem skipMember_settles (state : σ) (input : Bytes) :
    Settles ending (Alike tail) Spent (skipMember ending state input)
      (skipMember ending' state (input ++ tail)) := by
  refine (Json.readColon_settles input).andThen ?_
  rintro _ _ ⟨rest⟩
  dsimp only
  refine (Json.skipValue_settles rest).bind ?_ fun ends _ gone => .spent ends gone
  rintro _ _ ⟨left⟩
  exact .same (.mk ..)

private theorem readString_settles (input : Bytes) :
    Settles ending (Alike tail) Spent (Json.readString ending input)
      (Json.readString ending' (input ++ tail)) :=
  Json.readNamedString_settles _ input

private theorem environmentMember_settles (fields : EnvironmentFields) (key : String)
    (input : Bytes) :
    Settles ending (Alike tail) Spent (environmentMember ending fields key input)
      (environmentMember ending' fields key (input ++ tail)) := by
  unfold environmentMember
  split
  · exact fieldValue_settles readString_settles ..
  split
  · exact fieldValue_settles readString_settles ..
  · exact skipMember_settles fields input

private theorem environmentObject_settles (input : Bytes) :
    Settles ending (Alike tail) Spent (environmentObject ending input)
      (environmentObject ending' (input ++ tail)) :=
  (Json.readMembers_settles environmentMember_settles true {} input).keep
    EnvironmentFields.environment

private theorem environmentList_settles (input : Bytes) :
    Settles ending (Alike tail) Spent (environmentList ending input)
      (environmentList ending' (input ++ tail)) := by
  refine (Json.nextField_settles true readString_settles input).bind ?_ ?_
  · rintro _ _ ⟨term, rest, h, h'⟩
    cases term with
    | none => exact .same (.mk ..)
    | some term =>
      refine (Json.nextField_settles false readString_settles rest).bind ?_
        fun ends _ gone => .spent ends gone
      rintro _ _ ⟨shell, left⟩
      exact .same (.mk ..)
  · rintro ends ⟨term, rest, h⟩ blank
    cases term with
    | none => exact .spent ends blank
    | some term => exact (Json.nextField_runsOut false _ blank).fails

private theorem readEnvironment_settles (input : Bytes) :
    Settles ending (Alike tail) Never (readEnvironment ending input)
      (readEnvironment ending' (input ++ tail)) :=
  Json.readBracketed_settles environmentList_settles (.some environmentObject_settles) input

private theorem readRawFrames_settles (input : Bytes) :
    Settles ending (Alike tail) Never (readRawFrames ending input)
      (readRawFrames ending' (input ++ tail)) :=
  Json.readBracketed_settles (Json.readItems_settles Json.readRaw_settles true []) .none input

private theorem documentMember_settles (fields : Fields) (key : String) (input : Bytes) :
    Settles ending (Alike tail) Spent (documentMember ending fields key input)
      (documentMember ending' fields key (input ++ tail)) := by
  unfold documentMember
  split
  case h_1 => exact fieldValue_settles (Json.readWholeUpTo_settles _ _) ..
  case h_2 => exact fieldValue_settles (Json.readWholeUpTo_settles _ _) ..
  case h_3 => exact fieldValue_settles (Json.readWholeUpTo_settles _ _) ..
  case h_4 => exact fieldValue_settles Json.readOptionalReal_settles ..
  case h_5 => exact fieldValue_settles readString_settles ..
  case h_6 => exact fieldValue_settles readString_settles ..
  case h_7 => exact fieldValue_settles (fun input => (readEnvironment_settles input).closed) ..
  case h_8 => exact fieldValue_settles (fun input => (readRawFrames_settles input).closed) ..
  case h_9 => exact skipMember_settles fields input

/-! ## Documents -/

private theorem required_yields (field : String) (x : Option α) :
    Yields (fun _ => True) (required field x) := by
  cases x with
  | none => exact nofun
  | some x => trivial

private theorem header_yields (fields : Fields) : Yields (fun _ => True) fields.header :=
  (required_yields _ _).bind fun _ _ => (required_yields _ _).bind fun _ _ =>
    (required_yields _ _).bind fun _ _ => trivial

private theorem documentObject_settles (input : Bytes) :
    Settles ending (Alike tail) Spent (documentObject ending input)
      (documentObject ending' (input ++ tail)) := by
  refine (Json.readMembers_settles documentMember_settles true {} input).bind ?_ ?_
  · rintro _ _ ⟨fields, rest⟩
    refine Settles.andThen (.steady (header_yields fields)) ?_
    rintro header _ rfl
    exact .same (.mk ..)
  · rintro ends ⟨fields, rest⟩ blank
    exact (RunsOut.steady ends (header_yields fields)).bind
      fun ends _ (_ : True) => .spent ends blank

private theorem listed_yields (count : Nat) (x : Option α) :
    Yields (fun _ => True) (listed count x) := by
  cases x with
  | none => exact nofun
  | some x => trivial

/-- No field is read after the text has run out. -/
theorem nextField_past {value : Reader α} {given : β × { rest : Bytes // p rest }}
    (blank : Spent given) {f : _ → Except Json.Fault σ} {spent : σ → Prop} :
    RunsOut ending spent (Json.nextField ending false value given.2.val >>= f) :=
  (Json.nextField_runsOut false value blank).fails

private theorem documentList_settles (input : Bytes) :
    Settles ending (Alike tail) Spent (documentList ending input)
      (documentList ending' (input ++ tail)) := by
  have listed {count : Nat} {x : Option Nat}
      {f : Nat → Except Json.Fault (Header × Json.AtMost input)} (ends : ending = .ends)
      (later : ∀ x, RunsOut ending Spent (f x)) :
      RunsOut ending Spent (listed count x >>= f) :=
    (RunsOut.steady ends (listed_yields count x)).bind fun _ x (_ : True) => later x
  refine (Json.nextField_settles true (Json.readWholeUpTo_settles _ _) input).bind ?_
    fun ends given blank => listed ends fun _ => nextField_past blank
  rintro _ _ ⟨version, r₁⟩
  refine Settles.andThen (.steady (listed_yields 0 version)) ?_
  rintro version _ rfl
  refine (Json.nextField_settles false (Json.readWholeUpTo_settles _ _) r₁).bind ?_
    fun ends given blank => listed ends fun _ => nextField_past blank
  rintro _ _ ⟨width, r₂⟩
  refine Settles.andThen (.steady (listed_yields 1 width)) ?_
  rintro width _ rfl
  refine (Json.nextField_settles false (Json.readWholeUpTo_settles _ _) r₂).bind ?_
    fun ends given blank => listed ends fun _ => nextField_past blank
  rintro _ _ ⟨height, r₃⟩
  refine Settles.andThen (.steady (listed_yields 2 height)) ?_
  rintro height _ rfl
  refine (Json.nextField_settles false Json.readOptionalReal_settles r₃).bind ?_
    fun _ given blank => nextField_past blank
  rintro _ _ ⟨duration, r₄⟩
  refine (Json.nextField_settles false readString_settles r₄).bind ?_
    fun _ given blank => nextField_past blank
  rintro _ _ ⟨command, r₅⟩
  refine (Json.nextField_settles false readString_settles r₅).bind ?_
    fun _ given blank => nextField_past blank
  rintro _ _ ⟨title, r₆⟩
  refine (Json.nextField_settles false
    (fun input => (readEnvironment_settles input).closed) r₆).bind ?_
    fun _ given blank => nextField_past blank
  rintro _ _ ⟨env, r₇⟩
  refine (Json.nextField_settles false
    (fun input => (readRawFrames_settles input).closed) r₇).bind ?_
    fun ends _ gone => .spent ends gone
  rintro _ _ ⟨stdout, r₈⟩
  exact .same (.mk ..)

/-- The value of a document, without what follows it. -/
def documentValue (ending : Json.Ending) : Reader Header :=
  Json.readBracketed ending "struct RawDocument" (documentList ending)
    (some (documentObject ending))

private theorem documentValue_settles (input : Bytes) :
    Settles ending (Alike tail) Never (documentValue ending input)
      (documentValue ending' (input ++ tail)) :=
  Json.readBracketed_settles documentList_settles (.some documentObject_settles) input

/-! ## Cuts -/

/-- A header is that of the document's value, which blanks alone may follow. -/
theorem value_of_readHeader {input : Bytes} {header : Header}
    (read : readHeader ending input = .ok header) :
    ∃ rest, documentValue ending input = .ok (header, rest) ∧ Json.Blank rest.val := by
  obtain ⟨⟨found, rest⟩, given, read⟩ := ok_of_bind read
  obtain ⟨_, ended, same⟩ := ok_of_bind read
  obtain rfl := Except.ok.inj same
  refine ⟨rest, given, List.dropWhile_eq_nil_iff.mp ?_⟩
  rw [Json.readEnd] at ended
  split at ended
  · assumption
  · cases ended

/-- A part of a whole document runs out, unless its source ends and nothing but blanks is lost. -/
theorem readHeader_runsOut {kept lost : Bytes} {header : Header}
    (whole : readHeader .ends (kept ++ lost) = .ok header)
    (cut : ending = .ends → ∃ b ∈ lost, Json.isGap b = false) :
    RunsOut ending Never (readHeader ending kept) := by
  obtain ⟨rest, given, blank⟩ := value_of_readHeader whole
  have settles : Settles ending (Alike lost) Never (documentValue ending kept)
      (documentValue .ends (kept ++ lost)) := documentValue_settles kept
  rw [given] at settles
  unfold readHeader
  change RunsOut ending Never (documentValue ending kept >>= _)
  generalize documentValue ending kept = read at settles ⊢
  cases settles with
  | runsOut gone => exact gone.fails
  | same agree =>
    -- the part has the whole value, and what is lost after it is blank
    obtain ⟨header, left, h, h'⟩ := agree
    obtain ⟨blank, lostBlank⟩ := List.forall_mem_append.mp blank
    have empty : Json.skipGap left = [] := List.dropWhile_eq_nil_iff.mpr blank
    cases ending with
    | ends =>
      obtain ⟨b, member, solid⟩ := cut rfl
      exact absurd (lostBlank b member) (by simp [solid])
    | fails cause =>
      change RunsOut _ _ (Json.readEnd (.fails cause) left >>= _)
      rw [Json.readEnd, empty]
      exact .stopped rfl

/-! ## Sources -/

/-- The replies of a source that yields bytes, some of them after reads that were interrupted. -/
inductive Delivers : List Json.ByteReply → Bytes → Prop where
  | nothing : Delivers [] []
  | byte (b : UInt8) {replies : List Json.ByteReply} {bytes : Bytes}
      (more : Delivers replies bytes) : Delivers (.byte b :: replies) (b :: bytes)
  | again {cause : IoError} (interrupted : cause.kind = .interrupted)
      {replies : List Json.ByteReply} {bytes : Bytes} (more : Delivers replies bytes) :
      Delivers (.fails cause :: replies) bytes

private theorem delivers_map (bytes : Bytes) : Delivers (bytes.map .byte) bytes := by
  induction bytes with
  | nil => exact .nothing
  | cons b bytes ih => exact .byte b ih

private theorem received_append {replies : List Json.ByteReply} {bytes : Bytes}
    (delivers : Delivers replies bytes) (later : List Json.ByteReply) :
    Json.received (replies ++ later) =
      (bytes ++ (Json.received later).1, (Json.received later).2) := by
  induction delivers with
  | nothing => rfl
  | byte b more ih => simp [Json.received, ih]
  | again interrupted more ih => simp [Json.received, interrupted, ih]

private theorem decodeSource_fails {replies : List Json.ByteReply} {bytes : Bytes}
    (delivers : Delivers replies bytes) {cause : IoError} (other : cause.kind ≠ .interrupted)
    (later : List Json.ByteReply) :
    decodeSource (replies ++ .fails cause :: later) = decodeFrom (.fails cause) bytes := by
  rw [decodeSource, received_append delivers, Json.received, if_neg other, List.append_nil]

private theorem decodeSource_whole {replies : List Json.ByteReply} {bytes : Bytes}
    (delivers : Delivers replies bytes) : decodeSource replies = decode bytes := by
  have received := received_append delivers []
  rw [List.append_nil] at received
  rw [decodeSource, received, Json.received, List.append_nil, decode]

/-! ## Documents that are cut short -/

/-- The header of a document that is read, or that is written with a duration in range, is whole. -/
theorem whole_of_document {text : Bytes}
    (document : (∃ recording, decode text = .ok recording) ∨
      ∃ recording written, encode recording = .ok written ∧ textBytes written = text ∧
        recording.duration.readBack.isFinite = true) :
    ∃ header, readHeader .ends text = .ok header := by
  obtain ⟨recording, read⟩ | ⟨recording, written, made, rfl, inRange⟩ := document
  · obtain ⟨header, read, -⟩ := ok_of_bind read
    exact ⟨header, ok_of_mapError read⟩
  · obtain ⟨timed, rfl⟩ := encode_eq_ok.mp made
    rw [textBytes_document]
    exact ⟨_, readHeader_document timed.duration inRange timed.delays⟩

private theorem decodeFrom_of_error {input : Bytes} {fault : Json.Fault}
    (failed : readHeader ending input = .error fault) :
    decodeFrom ending input = .error (.json fault) := by
  rw [decodeFrom, failed]
  rfl

private theorem isFormat_of_ofText {fault : Json.Fault} (own : fault.OfText) :
    (Fault.ofDocument (.json fault)).isFormat = true := by
  cases fault with
  | stopped cause => exact absurd rfl (own cause)
  | _ => rfl

/-- A document that is cut short is never read, whether it is one that is read or one that was written
with a duration in range. Without its last byte apart from blanks it is malformed. When its source
fails, at any place and also after the last byte, this failure is the fault; and when the source
yields all of the document and ends, the document is read as ever. -/
theorem truncation_detected (text : Bytes)
    (document : (∃ recording, decode text = .ok recording) ∨
      ∃ recording written, encode recording = .ok written ∧ textBytes written = text ∧
        recording.duration.readBack.isFinite = true) :
    (∀ kept lost, text = kept ++ lost → (∃ b ∈ lost, Json.isGap b = false) →
      ∃ fault, decode kept = .error fault ∧ (Fault.ofDocument fault).isFormat = true) ∧
    (∀ n replies cause later, Delivers replies (text.take n) → cause.kind ≠ .interrupted →
      (decodeSource (replies ++ .fails cause :: later)).mapError Fault.ofDocument =
        .error (.io cause)) ∧
    ∀ replies, Delivers replies text → decodeSource replies = decode text := by
  obtain ⟨header, whole⟩ := whole_of_document document
  refine ⟨?_, ?_, fun replies delivers => decodeSource_whole delivers⟩
  · -- the source of the part ends
    rintro kept lost rfl solid
    have cut : RunsOut .ends Never (readHeader .ends kept) :=
      readHeader_runsOut whole fun _ => solid
    generalize failed : readHeader .ends kept = read at cut
    cases cut with
    | spent _ gone => exact gone.elim
    | stopped fails => cases fails
    | ended _ own => exact ⟨_, decodeFrom_of_error failed, isFormat_of_ofText own⟩
  · -- the source of the part fails, which also hides that nothing may follow
    intro n replies cause later delivers other
    rw [← List.take_append_drop n text] at whole
    have cut : RunsOut (.fails cause) Never (readHeader (.fails cause) (text.take n)) :=
      readHeader_runsOut whole nofun
    generalize failed : readHeader (.fails cause) (text.take n) = read at cut
    rw [decodeSource_fails delivers other]
    cases cut with
    | spent _ gone => exact gone.elim
    | ended ends own => cases ends
    | stopped fails =>
      cases fails
      rw [decodeFrom_of_error failed]
      rfl

/-- A document of one frame that lacks its closing bracket. -/
def unclosed : Bytes :=
  textBytes "\x7b\"version\": 1, \"width\": 1, \"height\": 1, \"stdout\": [[1, \"a\"]]"

/-- Without its bracket and the line feed after it a document is malformed, and when its source
fails after both, this failure is the fault. -/
theorem truncation_detected_unclosed :
    (∃ fault, decode unclosed = .error fault ∧ (Fault.ofDocument fault).isFormat = true) ∧
      (decodeSource ((unclosed ++ [0x7d, 0x0a]).map .byte ++ [.fails ⟨.timedOut, "late"⟩])).mapError
        Fault.ofDocument = .error (.io ⟨.timedOut, "late"⟩) := by
  have read : decode (unclosed ++ [0x7d, 0x0a]) = .ok (ofFrames 1 1 [⟨.ofNat 1, [0x61]⟩]) :=
    ok_of_toOption (by decide +kernel)
  obtain ⟨cut, fails, -⟩ := truncation_detected (unclosed ++ [0x7d, 0x0a]) (.inl ⟨_, read⟩)
  refine ⟨cut unclosed [0x7d, 0x0a] rfl ⟨0x7d, by decide, by decide⟩, ?_⟩
  refine fails (unclosed ++ [0x7d, 0x0a]).length _ _ [] ?_ (by decide)
  rw [List.take_length]
  exact delivers_map _

end TermTape.Recording

import TermTape.Proofs.Json.Ensured
import TermTape.Proofs.Number.Signs
import TermTape.Proofs.Recording.RoundTrip

/-!
# Documents that are read and written again

Every number that a document gives is finite. The duration that is counted for a document without
one is not always: delays that are finite one by one may add up to infinity. So a document that was
read is written again exactly when it gives a duration or its delays have a finite sum
(`encode_of_decode_iff`).
-/
namespace TermTape.Recording

open Json (Reader)

variable {ending : Json.Ending} {input : Bytes} {recording : Recording}

/-! ## Durations that are read -/

/-- The duration that has been read, if there is one, is a number. -/
def Fields.Timed (fields : Fields) : Prop :=
  ∀ given, fields.duration = some given → Json.FiniteIfAny given

/-- The duration of a document, if it gives one, is a number. -/
def Header.Timed (header : Header) : Prop := Json.FiniteIfAny header.duration

private theorem fieldValue_ensures {α σ : Type} {P : α → Prop} {S : σ → Prop} {value : Reader α}
    {put : Option α → σ} (given : ∀ input, Ensures (fun given => P given.1) (value input))
    (kept : ∀ x, P x → S (put (some x))) (key : String) (present : Option α) (input : Bytes) :
    Ensures (fun given => S given.1) (fieldValue ending key present value put input) := by
  unfold fieldValue
  split
  · exact .error _
  · refine (Json.memberValue_ensures given input).bind fun given holds => .ok ?_
    exact kept given.1 holds

private theorem fieldValue_keeps {α σ : Type} {S : σ → Prop} {value : Reader α} {put : Option α → σ}
    (kept : ∀ x, S (put (some x))) (key : String) (present : Option α) (input : Bytes) :
    Ensures (fun given => S given.1) (fieldValue ending key present value put input) :=
  fieldValue_ensures (fun _ _ _ => trivial) (fun x (_ : True) => kept x) key present input

private theorem documentMember_timed (fields : Fields) (key : String) (input : Bytes)
    (timed : fields.Timed) :
    Ensures (fun given => given.1.Timed) (documentMember ending fields key input) := by
  unfold documentMember
  split
  -- Only the fourth key sets the duration, and the ninth case passes over a member of no known key.
  case h_4 =>
    refine fieldValue_ensures Json.readOptionalReal_finite ?_ _ _ input
    intro given finite other same
    cases same
    exact finite
  case h_9 => exact .after fun _ => .after fun _ => .ok timed
  all_goals exact fieldValue_keeps (fun _ => timed) _ _ input

private theorem finiteIfAny_getD {duration : Option (Option Binary64)}
    (finite : ∀ given, duration = some given → Json.FiniteIfAny given) :
    Json.FiniteIfAny (duration.getD none) := by
  cases duration with
  | none => exact nofun
  | some given => exact finite given rfl

private theorem header_timed {fields : Fields} (timed : fields.Timed) :
    Ensures Header.Timed fields.header := by
  refine .after fun version => .after fun width => .after fun height => .ok ?_
  exact finiteIfAny_getD timed

private theorem documentObject_timed (input : Bytes) :
    Ensures (fun given => given.1.Timed) (documentObject ending input) := by
  have start : Fields.Timed {} := by
    intro given same
    cases same
  refine (Json.readMembers_ensures documentMember_timed true input start).bind fun given timed => ?_
  exact (header_timed timed).bind fun header finite => .ok finite

private theorem documentList_timed (input : Bytes) :
    Ensures (fun given => given.1.Timed) (documentList ending input) := by
  refine .after fun version => .after fun _ => .after fun width => .after fun _ => ?_
  refine .after fun height => .after fun _ => ?_
  refine (Json.nextField_ensures Json.readOptionalReal_finite false _).bind fun duration finite => ?_
  refine .after fun command => .after fun title => .after fun env => .after fun stdout => .ok ?_
  exact finiteIfAny_getD finite

/-- The duration that a document gives is a number. -/
theorem readHeader_timed (input : Bytes) :
    Ensures Header.Timed (readHeader ending input) := by
  refine (Json.readBracketed_ensures documentList_timed documentObject_timed input).bind ?_
  exact fun given finite => .after fun _ => .ok finite

/-! ## Writing again -/

/-- The duration of a recording that was read stands in the document, or is that of its frames. -/
theorem duration_of_decode (read : decode input = .ok recording) :
    ∃ header, readHeader .ends input = .ok header ∧
      recording.duration = header.duration.getD (totalDelay recording.frames) := by
  obtain ⟨header, found, made⟩ := ok_of_bind read
  rw [ofHeader] at made
  split at made
  · cases made
  · obtain ⟨frames, -, made⟩ := ok_of_bind made
    obtain rfl := Except.ok.inj made
    exact ⟨header, ok_of_mapError found, rfl⟩

private theorem totalDelay_of_decode (read : decode input = .ok recording) :
    (totalDelay recording.frames).AtLeastZero := by
  obtain ⟨-, delays⟩ := decode_forward read
  apply Binary64.atLeastZero_sum
  rw [List.forall_mem_map]
  intro frame member
  obtain ⟨finite, above⟩ := delays frame member
  exact Binary64.atLeastZero_of_isFinite finite above

/-- A duration is a number when it stands in a document, and when it is a total of delays that do not
add up to infinity. -/
theorem isFinite_getD_iff {header : Header} (found : readHeader ending input = .ok header)
    {total : Binary64} (above : total.AtLeastZero) :
    (header.duration.getD total).isFinite = true ↔
      header.duration.isSome = true ∨ total ≠ .infinite false := by
  cases given : header.duration with
  | none => simp [above.isFinite_iff]
  | some x =>
    have finite : x.isFinite = true := readHeader_timed input header found x given
    simp [finite]

/-- A recording whose delays are numbers has a document exactly when its duration is a number. -/
theorem encode_of_delays (delays : ∀ frame ∈ recording.frames, frame.delay.isFinite = true) :
    recording.encode =
      if recording.duration.isFinite then .ok recording.document
      else .error (.durationNotNumber recording.duration) := by
  by_cases finite : recording.duration.isFinite = true
  · rw [if_pos finite, encode_timed ⟨finite, delays⟩]
  · rw [if_neg finite, encode, segments, if_neg finite]
    rfl

/-- A document that was read is written again exactly when it gives a duration or its delays do not
add up to infinity. Otherwise the infinite duration is the fault. -/
theorem encode_of_decode_iff (input : Bytes) (recording : Recording)
    (read : decode input = .ok recording) :
    ∃ header, readHeader .ends input = .ok header ∧
      ((∃ text, recording.encode = .ok text) ↔
        header.duration.isSome = true ∨ totalDelay recording.frames ≠ .infinite false) ∧
      ∀ fault, recording.encode = .error fault → fault = .durationNotNumber (.infinite false) := by
  obtain ⟨header, found, duration⟩ := duration_of_decode read
  obtain ⟨-, delays⟩ := decode_forward read
  have finite := isFinite_getD_iff found (totalDelay_of_decode read)
  refine ⟨header, found, ?_⟩
  rw [encode_of_delays fun frame member => (delays frame member).1]
  by_cases number : recording.duration.isFinite = true
  · rw [if_pos number]
    rw [duration, finite] at number
    exact ⟨⟨fun _ => number, fun _ => ⟨_, rfl⟩⟩, nofun⟩
  · rw [if_neg number]
    rw [duration, finite, not_or, not_not] at number
    obtain ⟨absent, infinite⟩ := number
    have none : header.duration = none := by simpa using absent
    rw [duration, none, Option.getD_none, infinite]
    constructor
    · constructor
      · rintro ⟨text, written⟩
        cases written
      · rintro (given | other)
        · cases given
        · exact absurd rfl other
    · intro fault same
      cases same
      rfl

/-! ## Documents without a duration -/

/-- The document of two frames of one delay each, and no duration. -/
def twoFrames (delay : String) : Bytes :=
  textBytes ("\x7b\"version\": 1, \"width\": 1, \"height\": 1, \"stdout\": [[" ++ delay ++
    ", \"a\"], [" ++ delay ++ ", \"b\"]]\x7d")

/-- A document whose delays add up to two seconds is written again. -/
theorem encode_of_decode_two_seconds :
    ∃ recording, decode (twoFrames "1") = .ok recording ∧ ∃ text, recording.encode = .ok text := by
  have read : decode (twoFrames "1") =
      .ok (ofFrames 1 1 [⟨.ofNat 1, [0x61]⟩, ⟨.ofNat 1, [0x62]⟩]) :=
    ok_of_toOption (by decide +kernel)
  obtain ⟨header, -, written, -⟩ := encode_of_decode_iff _ _ read
  exact ⟨_, read, written.mpr (.inr (by decide +kernel))⟩

/-- A document whose delays add up to infinity is read, and not written again. -/
theorem decode_not_encodable :
    ¬ ∀ (input : Bytes) (recording : Recording), decode input = .ok recording →
      ∃ text, recording.encode = .ok text := by
  intro saved
  have read : decode (twoFrames "1e308") =
      .ok (ofFrames 1 1 [⟨.ofDecimal false 1 308, [0x61]⟩, ⟨.ofDecimal false 1 308, [0x62]⟩]) :=
    ok_of_toOption (by decide +kernel)
  obtain ⟨text, written⟩ := saved _ _ read
  have finite := (timed_of_encode written).duration
  exact absurd finite (by decide +kernel)

end TermTape.Recording

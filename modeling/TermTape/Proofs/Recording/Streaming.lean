import TermTape.Proofs.Json.Reading
import TermTape.Proofs.Json.Strings
import TermTape.Proofs.Sink.Refusals
import TermTape.Recording.Write

/-!
# Documents on sinks that refuse

A recording is looked at as a whole before anything of it is written, so one that has no document
makes no call on the sink. The document of any other is written in many small parts, and still the
sink takes the first bytes of the document, all of them unless it refuses a write
(`writeTo_follows_encode`).
-/
namespace TermTape.Recording

variable {recording : Recording} {fault : DocumentFault} {segments : List String}

/-! ## Recordings without a document -/

/-- A fault of a recording that is to be written: one of its times is no number. -/
inductive NotNumber : DocumentFault → Prop where
  | duration (duration : Binary64) : NotNumber (.durationNotNumber duration)
  | delay (delay : Binary64) : NotNumber (.delayNotNumber delay)

private theorem notNumber_of_frameTexts {frames : List Frame}
    (failed : frameTexts frames = .error fault) :
    NotNumber fault := by
  induction frames with
  | nil => cases failed
  | cons frame others ih =>
    rw [frameTexts] at failed
    split at failed
    · exact ih (error_of_map failed)
    · cases failed
      exact .delay frame.delay

private theorem notNumber_of_segments (failed : recording.segments = .error fault) :
    NotNumber fault := by
  rw [Recording.segments] at failed
  split at failed
  · exact notNumber_of_frameTexts (error_of_map failed)
  · cases failed
    exact .duration recording.duration

/-- A time that is no number is a fault of the document, and not of where it is written. -/
theorem NotNumber.ofDocument (notNumber : NotNumber fault) :
    Fault.ofDocument fault = .format (.document fault) := by
  cases notNumber <;> rfl

/-! ## Recordings with a document -/

private theorem encode_of_segments (made : recording.segments = .ok segments) :
    recording.encode = .ok (String.join segments) := by
  rw [encode, made]
  rfl

private theorem textBytes_of_segments (segments : List String) :
    (segments.map textBytes).flatten = textBytes (String.join segments) := by
  rw [Json.Print.textBytes_join, Json.Print.bytes, List.flatMap_def]

/-- A recording that has no document fails with the fault of its encoding, which is one of the
document, and makes no call on the sink. If it has a document, the sink takes the first bytes of it;
the writing succeeds exactly if these are all. Otherwise all calls passed up to a write of the bytes
that come next, which the sink refused; this was the last call, and its error is what the writing fails
with. -/
theorem writeTo_follows_encode (recording : Recording) (sink : Sink) :
    (∃ fault, recording.encode = .error fault ∧
        recording.writeTo sink = (.error (.format (.document fault)), sink)) ∨
      ∃ text result taken after, recording.encode = .ok text ∧
        recording.writeTo sink = (result, after) ∧
        after.accepted = sink.accepted ++ taken ∧ taken <+: textBytes text ∧
        (result = .ok () ↔ taken = textBytes text) ∧
        (result = .ok () ∨ ∃ cause before offer, result = .error (.io cause) ∧
          cause.kind ≠ .interrupted ∧ sink.Progress taken 0 before ∧ offer ≠ [] ∧
          taken ++ offer <+: textBytes text ∧ before.Refuses offer cause after) := by
  rw [writeTo]
  cases made : recording.segments with
  | error fault =>
    refine .inl ⟨fault, ?_, ?_⟩
    · rw [encode, made]
      rfl
    · rw [← (notNumber_of_segments made).ofDocument]
  | ok segments =>
    right
    have written := sink.writeParts_written (segments.map textBytes)
    rw [textBytes_of_segments] at written
    refine ⟨String.join segments, ?_⟩
    rcases ended : sink.writeParts (segments.map textBytes) with ⟨result, after⟩
    simp only [ended] at written ⊢
    cases written with
    | whole progress =>
      exact ⟨.ok (), _, after, encode_of_segments made, rfl, progress.accepted, List.prefix_rfl,
        by simp, .inl rfl⟩
    | @cut before _ cause taken offer rest parts some progress refuses =>
      refine ⟨.error (.io cause), taken, after, encode_of_segments made, rfl, ?_, ?_, ?_, .inr ?_⟩
      · rw [refuses.accepted, progress.accepted]
      · rw [parts, List.append_assoc]
        exact List.prefix_append taken _
      · simp [parts, some]
      · exact ⟨cause, before, offer, rfl, refuses.kind, progress, some, ⟨rest, parts.symm⟩, refuses⟩

end TermTape.Recording

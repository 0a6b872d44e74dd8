import Mathlib.Logic.Relation
import TermTape.Sink

/-!
# Sinks that refuse

A call on a sink passes, or a write is refused for good: the sink takes none of some bytes, or it
fails and was not interrupted. Writing all bytes goes on as long as the calls pass, whatever part of
the bytes each of them takes. So either all bytes are taken, or the first of them up to the write that
was refused, and no call is made after it (`writeAll_written`, `writeParts_written`).
-/
namespace TermTape.Sink

variable {sink middle before after : Sink} {data more offer : Bytes} {count m n : Nat}
  {cause : IoError} {reply : Except IoError Nat} {result : Except IoError Unit}

/-! ## Single calls -/

/-- A call that passes: a write of which some bytes are taken, a write that is interrupted, or a
flush. -/
inductive Passes (sink after : Sink) : Prop where
  | took {data : Bytes} {count : Nat} (wrote : sink.write data = (.ok count, after)) (some : count ≠ 0)
  | interrupted {data : Bytes} {cause : IoError} (failed : sink.write data = (.error cause, after))
      (again : cause.kind = .interrupted)
  | flushed (done : sink.flush = (.ok (), after))

/-- A write of some bytes that is refused for good. -/
inductive Refuses (sink : Sink) (offer : Bytes) : IoError → Sink → Prop where
  | nothing {after : Sink} (wrote : sink.write offer = (.ok 0, after)) :
      Refuses sink offer .wroteNothing after
  | failed {cause : IoError} {after : Sink} (failed : sink.write offer = (.error cause, after))
      (final : cause.kind ≠ .interrupted) : Refuses sink offer cause after

/-- The sink after a write: it has taken as many bytes as it says, and none if it failed. -/
theorem eq_take_of_write (wrote : sink.write data = (reply, after)) :
    after = sink.take (reply.toOption.getD 0) data sink.replies.tail := by
  unfold write at wrote
  split at wrote
  all_goals
    rename_i replies
    obtain ⟨rfl, rfl⟩ := Prod.mk.inj wrote
    rw [replies]
    rfl

theorem accepted_of_write (wrote : sink.write data = (reply, after)) :
    after.accepted = sink.accepted ++ data.take (reply.toOption.getD 0) := by
  simp [eq_take_of_write wrote, accepted, take]

private theorem flushes_of_write (wrote : sink.write data = (reply, after)) :
    after.flushes = sink.flushes := by
  rw [eq_take_of_write wrote, take]

theorem replies_of_write (wrote : sink.write data = (reply, after)) :
    after.replies = sink.replies.tail := by
  rw [eq_take_of_write wrote, take]

/-- Only a reply that is still to come can be a failure. -/
theorem replies_ne_nil (failed : sink.write data = (.error cause, after)) : sink.replies ≠ [] := by
  intro none
  rw [write, none] at failed
  cases failed

theorem accepted_of_flush (done : sink.flush = (result, after)) : after.accepted = sink.accepted := by
  unfold flush at done
  split at done <;> cases done <;> rfl

theorem flushes_of_flush (done : sink.flush = (result, after)) : after.flushes = sink.flushes + 1 := by
  unfold flush at done
  split at done <;> cases done <;> rfl

namespace Refuses

theorem accepted (refuses : sink.Refuses offer cause after) : after.accepted = sink.accepted := by
  cases refuses with
  | nothing wrote => exact (accepted_of_write wrote).trans (List.append_nil _)
  | failed failed => exact (accepted_of_write failed).trans (List.append_nil _)

theorem flushes (refuses : sink.Refuses offer cause after) : after.flushes = sink.flushes := by
  cases refuses with
  | nothing wrote => exact flushes_of_write wrote
  | failed failed => exact flushes_of_write failed

theorem kind (refuses : sink.Refuses offer cause after) : cause.kind ≠ .interrupted := by
  cases refuses with
  | nothing => decide
  | failed _ final => exact final

end Refuses

/-! ## Calls in turn -/

/-- Calls that all pass have made a sink take some bytes and have flushed it so many times. -/
structure Progress (sink : Sink) (data : Bytes) (flushes : Nat) (after : Sink) : Prop where
  calls : Relation.ReflTransGen Passes sink after
  accepted : after.accepted = sink.accepted ++ data
  flushes : after.flushes = sink.flushes + flushes

namespace Progress

theorem refl (sink : Sink) : sink.Progress [] 0 sink :=
  ⟨.refl, (List.append_nil _).symm, rfl⟩

theorem trans (first : sink.Progress data m middle) (second : middle.Progress more n after) :
    sink.Progress (data ++ more) (m + n) after where
  calls := first.calls.trans second.calls
  accepted := by rw [second.accepted, first.accepted, List.append_assoc]
  flushes := by rw [second.flushes, first.flushes, Nat.add_assoc]

private theorem of_took (wrote : sink.write data = (.ok count, after)) (some : count ≠ 0) :
    sink.Progress (data.take count) 0 after :=
  ⟨.single (.took wrote some), accepted_of_write wrote, flushes_of_write wrote⟩

private theorem of_interrupted (failed : sink.write data = (.error cause, after))
    (again : cause.kind = .interrupted) : sink.Progress [] 0 after :=
  ⟨.single (.interrupted failed again), accepted_of_write failed, flushes_of_write failed⟩

theorem of_flushed (done : sink.flush = (.ok (), after)) : sink.Progress [] 1 after :=
  ⟨.single (.flushed done), by rw [accepted_of_flush done, List.append_nil], flushes_of_flush done⟩

end Progress

/-! ## Writing all bytes -/

/-- How writing all bytes goes on after a write of them. -/
def goOn (data : Bytes) : Except IoError Nat × Sink → Except IoError Unit × Sink
  | (.ok count, after) =>
    if count = 0 then (.error .wroteNothing, after) else after.writeAll (data.drop count)
  | (.error cause, after) =>
    if cause.kind = .interrupted then after.writeAll data else (.error cause, after)

private theorem writeAll_nil (sink : Sink) : sink.writeAll [] = (.ok (), sink) := by
  rw [writeAll, writeAllAfter.eq_def]
  rfl

/-- Writing all bytes is a loop of writes. -/
theorem writeAll_eq_goOn (some : data ≠ []) : sink.writeAll data = goOn data (sink.write data) := by
  have length : data.length ≠ 0 := Nat.ne_of_gt (List.length_pos_iff.mpr some)
  have whole (after : Sink) : goOn data (.ok data.length, after) = (.ok (), after) := by
    rw [goOn, if_neg length, List.drop_length, writeAll_nil]
  rw [writeAll, writeAllAfter.eq_def, if_neg (by simpa using some), write]
  rcases sink.replies with _ | ⟨_ | _ | _, _⟩
  · exact (whole _).symm
  · exact (whole _).symm
  · rfl
  · rfl

/-- What comes of writing all of some bytes: they are all taken, or the first of them are, and then a
write of more of them is refused. -/
inductive Written (sink : Sink) (data : Bytes) : Except IoError Unit → Sink → Prop where
  | whole {after : Sink} (progress : sink.Progress data 0 after) : Written sink data (.ok ()) after
  | cut {before after : Sink} {cause : IoError} (taken offer rest : Bytes)
      (parts : data = taken ++ offer ++ rest) (some : offer ≠ [])
      (progress : sink.Progress taken 0 before) (refuses : before.Refuses offer cause after) :
      Written sink data (.error cause) after

namespace Written

theorem progress (whole : sink.Written data (.ok ()) after) : sink.Progress data 0 after := by
  cases whole with
  | whole progress => exact progress

/-- What was taken before is taken. -/
theorem after_progress (first : sink.Progress data 0 middle)
    (rest : middle.Written more result after) : sink.Written (data ++ more) result after := by
  cases rest with
  | whole progress => exact .whole (first.trans progress)
  | cut taken offer rest parts some progress refuses =>
    refine .cut (data ++ taken) offer rest ?_ some (first.trans progress) refuses
    simp only [parts, List.append_assoc]

/-- What comes after a write that is refused is not written. -/
theorem append (cut : sink.Written data (.error cause) after) (more : Bytes) :
    sink.Written (data ++ more) (.error cause) after := by
  cases cut with
  | cut taken offer rest parts some progress refuses =>
    refine .cut taken offer (rest ++ more) ?_ some progress refuses
    simp only [parts, List.append_assoc]

end Written

/-- Writing all bytes makes a sink take all of them, or the first of them. -/
theorem writeAll_written (sink : Sink) (data : Bytes) :
    sink.Written data (sink.writeAll data).1 (sink.writeAll data).2 := by
  by_cases none : data = []
  · subst none
    rw [writeAll_nil]
    exact .whole (.refl sink)
  rw [writeAll_eq_goOn none]
  have refused {cause : IoError} {after : Sink} (refuses : sink.Refuses data cause after) :
      sink.Written data (.error cause) after :=
    .cut [] data [] (List.append_nil data).symm none (.refl sink) refuses
  -- An interrupted write uses up a reply that was to come, and a short one takes bytes, so that the
  -- replies and the bytes that are left get fewer together.
  rcases wrote : sink.write data with ⟨cause | count, after⟩ <;> rw [goOn]
  · split
    case isTrue again =>
      have fewer : after.replies.length < sink.replies.length := by
        rw [replies_of_write wrote, List.length_tail]
        have := List.length_pos_iff.mpr (replies_ne_nil wrote)
        omega
      exact (writeAll_written after data).after_progress (.of_interrupted wrote again)
    case isFalse final => exact refused (.failed wrote final)
  · split
    case isTrue zero =>
      subst zero
      exact refused (.nothing wrote)
    case isFalse some =>
      have shorter : after.replies.length ≤ sink.replies.length ∧
          (data.drop count).length < data.length := by
        rw [replies_of_write wrote, List.length_tail, List.length_drop]
        have := List.length_pos_iff.mpr none
        omega
      have rest := (writeAll_written after (data.drop count)).after_progress (.of_took wrote some)
      rwa [List.take_append_drop] at rest
termination_by sink.replies.length + data.length

/-- Writing parts in turn is writing all of their bytes. -/
theorem writeParts_written (sink : Sink) (parts : List Bytes) :
    sink.Written parts.flatten (sink.writeParts parts).1 (sink.writeParts parts).2 := by
  induction parts generalizing sink with
  | nil => exact .whole (.refl sink)
  | cons part others ih =>
    have first := writeAll_written sink part
    rw [writeParts, List.flatten_cons]
    rcases written : sink.writeAll part with ⟨_ | _, after⟩ <;> rw [written] at first
    · exact first.append others.flatten
    · exact (ih after).after_progress first.progress

end TermTape.Sink

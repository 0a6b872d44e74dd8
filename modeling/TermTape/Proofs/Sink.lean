import TermTape.Sink

/-!
# Sinks that take everything

A sink that takes every write whole takes the bytes that are written to it, one write after another
and in their order.
-/
namespace TermTape.Sink

/-- Every coming write is taken whole, and every coming flush succeeds. -/
structure TakesAll (sink : Sink) : Prop where
  writes : ∀ reply ∈ sink.replies, reply = .all
  flushes : ∀ reply ∈ sink.flushReplies, reply = none

/-- The sink has taken bytes, and goes on taking everything. -/
structure Took (sink : Sink) (data : Bytes) (after : Sink) : Prop where
  accepted : after.accepted = sink.accepted ++ data
  takesAll : after.TakesAll

variable {sink after : Sink} {data : Bytes}

theorem TakesAll.nothing (takes : sink.TakesAll) : sink.Took [] sink :=
  ⟨(List.append_nil _).symm, takes⟩

theorem Took.trans {last : Sink} {more : Bytes} (first : sink.Took data after)
    (second : after.Took more last) : sink.Took (data ++ more) last :=
  ⟨by rw [second.accepted, first.accepted, List.append_assoc], second.takesAll⟩

private theorem took_take (takes : sink.TakesAll) (data : Bytes) {replies : List WriteReply}
    (rest : ∀ reply ∈ replies, reply = .all) : sink.Took data (sink.take data.length data replies) :=
  ⟨by simp [accepted, take], ⟨rest, takes.flushes⟩⟩

/-- One write is taken whole. -/
theorem write_takesAll (takes : sink.TakesAll) (data : Bytes) :
    ∃ after, sink.write data = (.ok data.length, after) ∧ sink.Took data after := by
  unfold write
  cases coming : sink.replies with
  | nil => exact ⟨_, rfl, took_take takes data (List.forall_mem_nil _)⟩
  | cons reply replies =>
    obtain ⟨first, rest⟩ := List.forall_mem_cons.mp (coming ▸ takes.writes)
    subst first
    exact ⟨_, rfl, took_take takes data rest⟩

/-- All bytes of a write are taken. -/
theorem writeAll_takesAll (takes : sink.TakesAll) (data : Bytes) :
    ∃ after, sink.writeAll data = (.ok (), after) ∧ sink.Took data after := by
  unfold writeAll
  rw [writeAllAfter.eq_def]
  split
  · rename_i none
    obtain rfl := List.isEmpty_iff.mp none
    exact ⟨_, rfl, takes.nothing⟩
  · cases coming : sink.replies with
    | nil => exact ⟨_, rfl, took_take takes data (List.forall_mem_nil _)⟩
    | cons reply replies =>
      obtain ⟨first, rest⟩ := List.forall_mem_cons.mp (coming ▸ takes.writes)
      subst first
      exact ⟨_, rfl, took_take takes data rest⟩

/-- A flush succeeds and takes nothing. -/
theorem flush_takesAll (takes : sink.TakesAll) :
    ∃ after, sink.flush = (.ok (), after) ∧ sink.Took [] after := by
  unfold flush
  cases coming : sink.flushReplies with
  | nil => exact ⟨_, rfl, (List.append_nil _).symm, takes.writes, List.forall_mem_nil _⟩
  | cons reply replies =>
    obtain ⟨first, rest⟩ := List.forall_mem_cons.mp (coming ▸ takes.flushes)
    subst first
    exact ⟨_, rfl, (List.append_nil _).symm, takes.writes, rest⟩

end TermTape.Sink

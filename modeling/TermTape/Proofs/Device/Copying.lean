import TermTape.Device.Copy
import TermTape.Proofs.Sink.Refusals

/-!
# What copies pass on

A copy goes on after each report of its source that neither ends nor fails it, and after each chunk that
it reads and its sink takes whole (`Passes`). Then one report ends it: the cancellation, the end of the
source, or a failure (`Ends`). So the sink has taken what was read, and once the cancellation is reported
nothing is read or written any more (`run_lossless`).
-/
namespace TermTape.Copy

/-! ## Reports -/

/-- A report that tells of the cancellation. -/
def WaitReply.Cancels : WaitReply → Prop
  | .woken cancelled _ => cancelled = true
  | _ => False

/-- The chunk that a read gives, when it takes bytes of the source up to a count. -/
def chunkOf (source : Bytes) (count : Nat) : Bytes := source.take (min count bufferSize)

/-- The chunks that are read from a source as it reports. -/
def reads : Bytes → List WaitReply → List Bytes
  | _, [] => []
  | source, .woken _ (.ready (.upTo count)) :: rest =>
    chunkOf source count :: reads (source.drop (chunkOf source count).length) rest
  | source, _ :: rest => reads source rest

/-- A report after which a copy goes on without reading anything. -/
inductive Idles : WaitReply → Prop where
  | interrupted : Idles .interrupted
  | idle : Idles (.woken false .idle)
  | again : Idles (.woken false (.ready .again))

/-! ## Courses -/

/-- The state after a chunk of the source was read and offered to the sink. -/
def State.passed (state : State) (chunk : Bytes) (sink : Sink) (count : Nat) : State :=
  ⟨state.source.drop chunk.length, sink, state.total + count⟩

/-- Reports after which a copy goes on, and the chunks that it reads meanwhile and its sink takes
whole. -/
inductive Passes : State → List WaitReply → List Bytes → State → Prop where
  | none (state : State) : Passes state [] [] state
  | idle {state last : State} {reply : WaitReply} {replies : List WaitReply} {chunks : List Bytes}
      (idles : Idles reply) (more : Passes state replies chunks last) :
      Passes state (reply :: replies) chunks last
  | chunk {state last : State} {count : Nat} {sink : Sink} {chunk : Bytes} {replies : List WaitReply}
      {chunks : List Bytes} (read : chunkOf state.source count = chunk) (some : chunk ≠ [])
      (wrote : state.sink.write chunk = (.ok chunk.length, sink))
      (more : Passes (state.passed chunk sink chunk.length) replies chunks last) :
      Passes state (.woken false (.ready (.upTo count)) :: replies) (chunk :: chunks) last

/-- A report that ends a copy, with its outcome and last state. -/
inductive Ends (state : State) : WaitReply → Except IoError Nat → State → Prop where
  | cancelled (source : SourceReply) : Ends state (.woken true source) (.ok state.total) state
  | finished {count : Nat} (nothing : chunkOf state.source count = []) :
      Ends state (.woken false (.ready (.upTo count))) (.ok state.total) state
  | waitFails (cause : IoError) : Ends state (.fails cause) (.error cause) state
  | notOpen : Ends state (.woken false .notOpen) (.error sourceNotOpen) state
  | readFails (cause : IoError) : Ends state (.woken false (.ready (.fails cause))) (.error cause) state
  | refused {count : Nat} {chunk : Bytes} {cause : IoError} {sink : Sink}
      (read : chunkOf state.source count = chunk) (some : chunk ≠ [])
      (failed : state.sink.write chunk = (.error cause, sink)) :
      Ends state (.woken false (.ready (.upTo count))) (.error cause) (state.passed chunk sink 0)
  | short {count taken : Nat} {chunk : Bytes} {sink : Sink}
      (read : chunkOf state.source count = chunk) (some : chunk ≠ [])
      (wrote : state.sink.write chunk = (.ok taken, sink)) (part : taken ≠ chunk.length) :
      Ends state (.woken false (.ready (.upTo count))) (.error (shortWrite taken chunk.length))
        (state.passed chunk sink 0)

/-- What comes of a copy: it goes on after all reports, or one of them ends it. -/
inductive Course (state : State) : List WaitReply → Option (Except IoError Nat) → State → Prop where
  | waits {replies : List WaitReply} {chunks : List Bytes} {last : State}
      (passes : Passes state replies chunks last) : Course state replies none last
  | ended {earlier later : List WaitReply} {ending : WaitReply} {chunks : List Bytes}
      {middle last : State} {result : Except IoError Nat} (passes : Passes state earlier chunks middle)
      (ends : Ends middle ending result last) :
      Course state (earlier ++ ending :: later) (some result) last

section

variable {state last : State} {reply : WaitReply} {replies rest : List WaitReply} {chunks : List Bytes}
  {result : Option (Except IoError Nat)}

theorem Course.idle (idles : Idles reply) (course : Course state rest result last) :
    Course state (reply :: rest) result last := by
  cases course with
  | waits passes => exact .waits (.idle idles passes)
  | ended passes ends => exact .ended (.idle idles passes) ends

theorem Course.chunk {count : Nat} {chunk : Bytes} {sink : Sink}
    (read : chunkOf state.source count = chunk) (some : chunk ≠ [])
    (wrote : state.sink.write chunk = (.ok chunk.length, sink))
    (course : Course (state.passed chunk sink chunk.length) rest result last) :
    Course state (.woken false (.ready (.upTo count)) :: rest) result last := by
  cases course with
  | waits passes => exact .waits (.chunk read some wrote passes)
  | ended passes ends => exact .ended (.chunk read some wrote passes) ends

/-- A read of nothing is the end of the source, and a chunk is read and offered to the sink. -/
theorem run_read (state : State) (count : Nat) (rest : List WaitReply) :
    run state (.woken false (.ready (.upTo count)) :: rest) =
      if chunkOf state.source count = [] then (some (.ok state.total), state)
      else match state.sink.write (chunkOf state.source count) with
        | (.ok taken, sink) =>
          if taken = (chunkOf state.source count).length then
            run (state.passed (chunkOf state.source count) sink (chunkOf state.source count).length) rest
          else (some (.error (shortWrite taken (chunkOf state.source count).length)),
            state.passed (chunkOf state.source count) sink 0)
        | (.error cause, sink) =>
          (some (.error cause), state.passed (chunkOf state.source count) sink 0) := by
  rw [run, writeChunk, ← chunkOf]
  simp only [List.isEmpty_iff]
  split
  · rfl
  · rcases state.sink.write (chunkOf state.source count) with ⟨cause | taken, sink⟩
    · rfl
    · by_cases whole : taken = (chunkOf state.source count).length
      · simp only [if_pos whole]
        rfl
      · simp only [if_neg whole]
        rfl

/-- The course of a copy follows its reports. -/
theorem run_course (state : State) (replies : List WaitReply) :
    Course state replies (run state replies).1 (run state replies).2 := by
  induction replies generalizing state with
  | nil => exact .waits (.none state)
  | cons reply rest ih =>
    have ends {result : Except IoError Nat} {last : State} (ends : Ends state reply result last) :
        Course state (reply :: rest) (some result) last := .ended (.none state) ends
    -- The cancellation is looked at first, so it ends the copy whatever the source reports.
    rcases reply with _ | cause | ⟨_ | _, _ | _ | ⟨count | _ | cause⟩⟩
    · exact (ih state).idle .interrupted
    · exact ends (.waitFails cause)
    · exact (ih state).idle .idle
    · exact ends .notOpen
    · rw [run_read]
      by_cases nothing : chunkOf state.source count = []
      · rw [if_pos nothing]
        exact ends (.finished nothing)
      rw [if_neg nothing]
      rcases wrote : state.sink.write (chunkOf state.source count) with ⟨cause | taken, sink⟩
      · exact ends (.refused rfl nothing wrote)
      · dsimp only
        split
        case isTrue whole =>
          rw [whole] at wrote
          exact (ih _).chunk rfl nothing wrote
        case isFalse part => exact ends (.short rfl nothing wrote part)
    · exact (ih state).idle .again
    · exact ends (.readFails cause)
    all_goals exact ends (.cancelled _)

end

/-! ## What was copied -/

/-- What a copy has done as far as it has passed on some chunks. -/
structure Copied (state : State) (chunks : List Bytes) (last : State) : Prop where
  source : state.source = chunks.flatten ++ last.source
  total : last.total = state.total + chunks.flatten.length
  taken : last.sink.chunks = chunks.reverse ++ state.sink.chunks
  offers : last.sink.offers = (chunks.map List.length).reverse ++ state.sink.offers
  replies : last.sink.replies = state.sink.replies.drop chunks.length

section

variable {state last : State} {replies : List WaitReply} {chunks : List Bytes}

private theorem chunkOf_append (source : Bytes) (count : Nat) :
    chunkOf source count ++ source.drop (chunkOf source count).length = source := by
  rw [chunkOf, List.length_take, ← List.drop_eq_drop_min, List.take_append_drop]

/-- A copy that goes on with some reports goes on in the same way before any others. -/
theorem Passes.run_append (passes : Passes state replies chunks last) (rest : List WaitReply) :
    run state (replies ++ rest) = run last rest := by
  induction passes with
  | none => rfl
  | idle idles _ ih => cases idles <;> exact ih
  | chunk read some wrote _ ih =>
    subst read
    rw [List.cons_append, run_read, if_neg some, wrote]
    simp only [if_true]
    exact ih

/-- A report that ends a copy ends it before any others. -/
theorem Ends.run_cons {ending : WaitReply} {result : Except IoError Nat}
    (ends : Ends state ending result last) (rest : List WaitReply) :
    run state (ending :: rest) = (some result, last) := by
  cases ends with
  | finished nothing => rw [run_read, if_pos nothing]
  | refused read some failed =>
    subst read
    rw [run_read, if_neg some, failed]
  | short read some wrote part =>
    subst read
    rw [run_read, if_neg some, wrote]
    simp only [if_neg part]
  | _ => rfl

private theorem Passes.copied (passes : Passes state replies chunks last) :
    Copied state chunks last := by
  induction passes with
  | none state => exact ⟨rfl, rfl, rfl, rfl, rfl⟩
  | idle _ _ ih => exact ih
  | @chunk state last count sink chunk replies chunks read _ wrote _ ih =>
    have written := Sink.eq_take_of_write wrote
    refine ⟨?_, ?_, ?_, ?_, ?_⟩
    · rw [List.flatten_cons, List.append_assoc, ← ih.source, ← read, State.passed, chunkOf_append]
    · rw [ih.total, List.flatten_cons, List.length_append, State.passed, Nat.add_assoc]
    · rw [ih.taken, State.passed, written]
      simp [Sink.take, Except.toOption]
    · rw [ih.offers, State.passed, written]
      simp [Sink.take]
    · rw [ih.replies, State.passed, written]
      simp [Sink.take]

/-- The chunks are those that the source gives. -/
theorem Passes.reads (passes : Passes state replies chunks last) : reads state.source replies = chunks := by
  induction passes with
  | none => rfl
  | idle idles _ ih => cases idles <;> exact ih
  | chunk read _ _ _ ih =>
    subst read
    rw [Copy.reads, ← ih]
    rfl

theorem Passes.bounds (passes : Passes state replies chunks last) :
    ∀ chunk ∈ chunks, chunk ≠ [] ∧ chunk.length ≤ bufferSize := by
  induction passes with
  | none => exact List.forall_mem_nil _
  | idle _ _ ih => exact ih
  | chunk read some _ _ ih =>
    subst read
    refine List.forall_mem_cons.mpr ⟨⟨some, ?_⟩, ih⟩
    rw [chunkOf, List.length_take]
    omega

private theorem Passes.not_cancels (passes : Passes state replies chunks last) :
    ∀ reply ∈ replies, ¬ reply.Cancels := by
  induction passes with
  | none => exact List.forall_mem_nil _
  | idle idles _ ih =>
    refine List.forall_mem_cons.mpr ⟨?_, ih⟩
    cases idles <;> exact nofun
  | chunk _ _ _ _ ih => exact List.forall_mem_cons.mpr ⟨nofun, ih⟩

theorem Copied.accepted (copied : Copied state chunks last) :
    last.sink.accepted = state.sink.accepted ++ chunks.flatten := by
  rw [Sink.accepted, copied.taken]
  simp [Sink.accepted]

/-- A sink that takes at most some bytes takes these, or all that it is offered. -/
theorem taken_of_limit {sink after : Sink} {data : Bytes} {reply : Except IoError Nat} {limit : Nat}
    (wrote : sink.write data = (reply, after)) (coming : sink.replies[0]? = some (.upTo limit)) :
    reply = .ok (min limit data.length) := by
  unfold Sink.write at wrote
  split at wrote <;> rename_i replies <;> rw [replies] at coming
  all_goals cases coming
  cases wrote
  rfl

/-- A chunk that is taken whole is no longer than what its sink takes at most. -/
theorem Passes.limits (passes : Passes state replies chunks last) {k limit : Nat} {chunk : Bytes}
    (written : chunks[k]? = some chunk) (coming : state.sink.replies[k]? = some (.upTo limit)) :
    chunk.length ≤ limit := by
  induction passes generalizing k with
  | none => cases written
  | idle _ _ ih => exact ih written coming
  | chunk _ _ wrote _ ih =>
    cases k with
    | zero =>
      cases written
      have taken := Except.ok.inj (taken_of_limit wrote coming)
      omega
    | succ k =>
      apply ih written
      rw [State.passed, Sink.replies_of_write wrote, List.getElem?_tail]
      exact coming

/-- What is read and written at the report that ends a copy: bytes of which the sink takes the first, in
writes of so many bytes. A short write is the outcome. -/
structure Written (middle : State) (read accepted : Bytes) (offers : List Nat)
    (result : Except IoError Nat) (last : State) : Prop where
  source : middle.source = read ++ last.source
  part : accepted <+: read
  accepted : last.sink.accepted = middle.sink.accepted ++ accepted
  offered : last.sink.offered = middle.sink.offered ++ offers
  short : ∀ {k offer limit : Nat}, offers[k]? = some offer →
    middle.sink.replies[k]? = some (.upTo limit) → limit < offer →
    result = .error (shortWrite limit offer)

private theorem written_nothing (state : State) (result : Except IoError Nat) :
    Written state [] [] [] result state :=
  ⟨rfl, List.prefix_rfl, (List.append_nil _).symm, (List.append_nil _).symm, nofun⟩

/-- A chunk that is read is offered to the sink in one write. -/
theorem written_chunk {count : Nat} {chunk : Bytes} {sink : Sink} {reply : Except IoError Nat}
    {result : Except IoError Nat} (read : chunkOf state.source count = chunk)
    (wrote : state.sink.write chunk = (reply, sink))
    (short : ∀ taken, reply = .ok taken → taken < chunk.length →
      result = .error (shortWrite taken chunk.length)) :
    Written state chunk (chunk.take (reply.toOption.getD 0)) [chunk.length] result
      (state.passed chunk sink 0) where
  source := by rw [← read, State.passed, chunkOf_append]
  part := List.take_prefix _ _
  accepted := Sink.accepted_of_write wrote
  offered := by
    rw [State.passed, Sink.eq_take_of_write wrote]
    simp [Sink.offered, Sink.take]
  short := by
    rintro (_ | k) offer limit offered coming less
    · cases offered
      have taken := taken_of_limit wrote coming
      rw [Nat.min_eq_left (Nat.le_of_lt less)] at taken
      exact short limit taken less
    · cases offered

theorem Ends.written {middle : State} {ending : WaitReply} {result : Except IoError Nat}
    (ends : Ends middle ending result last) :
    ∃ read accepted offers, Written middle read accepted offers result last := by
  cases ends with
  | refused read some failed => exact ⟨_, _, _, written_chunk read failed nofun⟩
  | short read some wrote part =>
    refine ⟨_, _, _, written_chunk read wrote fun taken same less => ?_⟩
    cases same
    rfl
  | _ => exact ⟨[], [], [], written_nothing _ _⟩

/-- A copy that ends well does so with a report, at which nothing is read or written. -/
theorem Ends.stops {middle : State} {ending : WaitReply} {total : Nat}
    (ends : Ends middle ending (.ok total) last) :
    last = middle ∧ total = middle.total ∧
      (ending.Cancels ∨
        ∃ count, ending = .woken false (.ready (.upTo count)) ∧ chunkOf middle.source count = []) := by
  cases ends with
  | cancelled source => exact ⟨rfl, rfl, .inl rfl⟩
  | finished nothing => exact ⟨rfl, rfl, .inr ⟨_, rfl, nothing⟩⟩

theorem Copied.offered (copied : Copied state chunks last) :
    last.sink.offered = state.sink.offered ++ chunks.map List.length := by
  rw [Sink.offered, copied.offers]
  simp [Sink.offered]

/-- Of the writes of a copy, one that the sink takes less of than it offers is the last, and the copy
fails with it. -/
theorem Course.short {result : Option (Except IoError Nat)} (course : Course state replies result last) :
    ∃ offers, last.sink.offered = state.sink.offered ++ offers ∧
      ∀ {k offer limit : Nat}, offers[k]? = some offer → state.sink.replies[k]? = some (.upTo limit) →
        limit < offer → result = some (.error (shortWrite limit offer)) := by
  have whole {replies : List WaitReply} {chunks : List Bytes} {middle : State} {k offer limit : Nat}
      (passes : Passes state replies chunks middle) (offered : (chunks.map List.length)[k]? = some offer)
      (coming : state.sink.replies[k]? = some (.upTo limit)) : ¬ limit < offer := by
    rw [List.getElem?_map] at offered
    obtain ⟨chunk, found, rfl⟩ := Option.map_eq_some_iff.mp offered
    exact Nat.not_lt.mpr (passes.limits found coming)
  cases course with
  | waits passes =>
    refine ⟨_, passes.copied.offered, ?_⟩
    intro k offer limit offered coming less
    exact absurd less (whole passes offered coming)
  | @ended earlier later ending chunks middle _ result passes ends =>
    obtain ⟨read, accepted, offers, written⟩ := ends.written
    have copied := passes.copied
    refine ⟨chunks.map List.length ++ offers, ?_, ?_⟩
    · rw [written.offered, copied.offered, List.append_assoc]
    · intro k offer limit offered coming less
      rw [List.getElem?_append, List.length_map] at offered
      split at offered
      · exact absurd less (whole passes offered coming)
      · have later : middle.sink.replies[k - chunks.length]? = some (.upTo limit) := by
          rw [copied.replies, List.getElem?_drop, ← coming]
          congr 1
          omega
        rw [written.short offered later less]

end

/-- A copy has ended well, at a report after some others. The sink has taken the first bytes of the
source, and the rest is left. -/
structure Completed (source : Bytes) (sink : Sink) (earlier : List WaitReply) (ending : WaitReply)
    (total : Nat) (last : State) : Prop where
  within : total ≤ source.length
  accepted : last.sink.accepted = sink.accepted ++ source.take total
  left : last.source = source.drop total
  /-- The report is the first that tells of the cancellation, or it is the end of the source. -/
  uncancelled : ∀ reply ∈ earlier, ¬ reply.Cancels
  stops : ending.Cancels ∨
    ∃ count, ending = .woken false (.ready (.upTo count)) ∧ chunkOf last.source count = []
  /-- The chunks that were read before the report are the writes that were made. -/
  chunks : last.sink.chunks = (reads source earlier).reverse ++ sink.chunks
  offers : last.sink.offers = ((reads source earlier).map List.length).reverse ++ sink.offers
  bounded : ∀ chunk ∈ reads source earlier, chunk ≠ [] ∧ chunk.length ≤ bufferSize
  /-- Later reports do not matter. -/
  ends : ∀ later, run (.start source sink) (earlier ++ ending :: later) = (some (.ok total), last)

private theorem completed_of_passes {source : Bytes} {sink : Sink} {earlier : List WaitReply}
    {ending : WaitReply} {chunks : List Bytes} {middle last : State} {total : Nat}
    (passes : Passes (.start source sink) earlier chunks middle) (ends : Ends middle ending (.ok total) last) :
    Completed source sink earlier ending total last := by
  obtain ⟨rfl, rfl, stops⟩ := ends.stops
  have copied := passes.copied
  have parts : source = chunks.flatten ++ last.source := copied.source
  have total : last.total = chunks.flatten.length := copied.total.trans (Nat.zero_add _)
  have left : source.drop chunks.flatten.length = last.source := by rw [parts, List.drop_left]
  have read : reads source earlier = chunks := passes.reads
  refine ⟨?_, ?_, ?_, passes.not_cancels, stops, ?_, ?_, ?_, ?_⟩
  · rw [total, parts, List.length_append]
    exact Nat.le_add_right _ _
  · rw [total, parts, List.take_left]
    exact copied.accepted
  · rw [total, left]
  · rw [read]
    exact copied.taken
  · rw [read]
    exact copied.offers
  · rw [read]
    exact passes.bounds
  · intro later
    rw [passes.run_append, ends.run_cons]

/-- A copy either goes on after all reports, none of which tells of the cancellation, or it ends.

If it ends well, it does so at the first report that tells of the cancellation, whatever else that says,
or where the source ends. The sink has then taken as many of the first bytes of the source as the copy
says: the chunks that were read before that report, each in a write of its own that is no longer than
the buffer.

If it fails, the sink has taken the first of the bytes that were read. A sink that takes less of a write
than it is offered makes the copy fail with the error of a short write. -/
theorem run_lossless (source : Bytes) (sink : Sink) (replies : List WaitReply) :
    ∃ result last, run (.start source sink) replies = (result, last) ∧
      (result = none → ∀ reply ∈ replies, ¬ reply.Cancels) ∧
      (∀ total, result = some (.ok total) → ∃ earlier ending later,
        replies = earlier ++ ending :: later ∧ Completed source sink earlier ending total last) ∧
      (∀ cause, result = some (.error cause) → ∃ read accepted,
        source = read ++ last.source ∧ accepted <+: read ∧
          last.sink.accepted = sink.accepted ++ accepted) ∧
      ∃ offers, last.sink.offered = sink.offered ++ offers ∧
        ∀ (k offer limit : Nat), offers[k]? = some offer → sink.replies[k]? = some (.upTo limit) →
          limit < offer →
          result = some (.error (shortWrite limit offer)) ∧ (shortWrite limit offer).kind = .writeZero := by
  obtain ⟨result, last, ran⟩ : ∃ result last, run (.start source sink) replies = (result, last) :=
    ⟨_, _, rfl⟩
  have course := run_course (.start source sink) replies
  rw [ran] at course
  obtain ⟨offers, offered, short⟩ := course.short
  refine ⟨result, last, ran, ?_, ?_, ?_, offers, offered, ?_⟩
  · rintro rfl
    cases course with
    | waits passes => exact passes.not_cancels
  · rintro total rfl
    cases course with
    | ended passes ends => exact ⟨_, _, _, rfl, completed_of_passes passes ends⟩
  · rintro cause rfl
    cases course with
    | @ended earlier later ending chunks middle last result passes ends =>
      obtain ⟨read, accepted, _, written⟩ := ends.written
      have copied := passes.copied
      refine ⟨chunks.flatten ++ read, chunks.flatten ++ accepted, ?_, ?_, ?_⟩
      · rw [List.append_assoc, ← written.source]
        exact copied.source
      · exact (List.prefix_append_right_inj _).mpr written.part
      · rw [written.accepted, copied.accepted, List.append_assoc]
        rfl
  · intro k offer limit found coming less
    exact ⟨short found coming less, rfl⟩

/-- Bytes that are ready together with the cancellation are not read. -/
example :
    let copied := run (.start [1, 2, 3] (.replying []))
      [.interrupted, .woken false (.ready (.upTo 2)), .woken true (.ready (.upTo 1))]
    copied.1 = some (.ok 2) ∧ copied.2.sink.accepted = [1, 2] ∧ copied.2.source = [3] :=
  ⟨rfl, rfl, rfl⟩

end TermTape.Copy

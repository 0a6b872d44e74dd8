import TermTape.Device.Descriptor

/-!
# Deliveries to descriptors

A write to a descriptor is a row of attempts. Each attempt offers the bytes that the ones before it
have left, and waits if the descriptor has no room. The row ends when no bytes are left, when the
descriptor takes none, or when a write or a wait fails (`Delivers`). So a write that succeeds has
delivered as many bytes as it says, each of them once (`write_delivers`). A write that fails has
delivered what the attempts before the failure took, which it does not say
(`failed_write_delivers_iff`).
-/
namespace TermTape.Descriptor

/-! ## Calls -/

/-- How many bytes of an offer are taken. -/
def WriteReply.count (reply : WriteReply) (offer : Bytes) : Nat :=
  match reply with
  | .upTo count => min count offer.length
  | _ => 0

/-- What a descriptor does with an offer, by its coming replies. -/
def nextWrite (descriptor : Descriptor) (offer : Bytes) : WriteReply :=
  descriptor.writes.headD (.upTo offer.length)

/-- The descriptor after it was offered some bytes. -/
def afterWrite (descriptor : Descriptor) (offer : Bytes) : Descriptor :=
  descriptor.take ((descriptor.nextWrite offer).count offer) offer descriptor.writes.tail

/-- What a wait for room reports, by the coming replies. -/
def nextWait (descriptor : Descriptor) : WaitReply := descriptor.waits.headD .ready

/-- The descriptor after a wait for room. -/
def afterWait (descriptor : Descriptor) : Descriptor :=
  { descriptor with waits := descriptor.waits.tail, calls := .wait :: descriptor.calls }

/-- An attempt of a write: the bytes that it offers, what comes of that, and the waits that follow. -/
structure Attempt where
  offer : Bytes
  reply : WriteReply
  waits : List WaitReply

namespace Attempt

/-- The bytes that are taken. -/
def taken (attempt : Attempt) : Bytes := attempt.offer.take (attempt.reply.count attempt.offer)

/-- The calls of an attempt, the first one first. -/
def calls (attempt : Attempt) : List Call :=
  .write attempt.offer.length :: attempt.waits.map fun _ => .wait

end Attempt

/-- The bytes that attempts take. -/
def takenBy (attempts : List Attempt) : Bytes := attempts.flatMap Attempt.taken

/-- A descriptor gives the reports of some waits. -/
inductive Waits : Descriptor → List WaitReply → Descriptor → Prop where
  | none (descriptor : Descriptor) : Waits descriptor [] descriptor
  | next {descriptor after : Descriptor} {reply : WaitReply} {replies : List WaitReply}
      (same : descriptor.nextWait = reply) (rest : Waits descriptor.afterWait replies after) :
      Waits descriptor (reply :: replies) after

/-- A descriptor is tried by some attempts, one after another. -/
inductive Tried : Descriptor → List Attempt → Descriptor → Prop where
  | none (descriptor : Descriptor) : Tried descriptor [] descriptor
  | next {descriptor between after : Descriptor} {attempt : Attempt} {attempts : List Attempt}
      (same : descriptor.nextWrite attempt.offer = attempt.reply)
      (waits : Waits (descriptor.afterWrite attempt.offer) attempt.waits between)
      (rest : Tried between attempts after) : Tried descriptor (attempt :: attempts) after

section

variable {descriptor after : Descriptor} {replies : List WaitReply} {attempts : List Attempt}

private theorem received_of_waits (waits : Waits descriptor replies after) :
    after.received = descriptor.received := by
  induction waits with
  | none => rfl
  | next _ _ ih => exact ih

private theorem calls_of_waits (waits : Waits descriptor replies after) :
    after.calls = (replies.map fun _ => .wait).reverse ++ descriptor.calls := by
  induction waits with
  | none => rfl
  | next _ _ ih =>
    rw [ih, List.map_cons, List.reverse_cons, List.append_assoc]
    rfl

/-- A descriptor has received what the attempts took, and nothing else. -/
theorem Tried.received (tried : Tried descriptor attempts after) :
    after.received = descriptor.received ++ takenBy attempts := by
  induction tried with
  | none => exact (List.append_nil _).symm
  | @next descriptor between after attempt attempts same waits _ ih =>
    have first : (descriptor.afterWrite attempt.offer).received = descriptor.received ++ attempt.taken := by
      simp [afterWrite, Descriptor.received, take, Attempt.taken, same]
    rw [ih, received_of_waits waits, first, takenBy, takenBy, List.flatMap_cons, List.append_assoc]

/-- A descriptor got the calls of the attempts, and no others. -/
theorem Tried.calls (tried : Tried descriptor attempts after) :
    after.calls = (attempts.flatMap Attempt.calls).reverse ++ descriptor.calls := by
  induction tried with
  | none => rfl
  | @next descriptor between after attempt attempts _ waits _ ih =>
    rw [ih, calls_of_waits waits, List.flatMap_cons, List.reverse_append, List.append_assoc, Attempt.calls,
      List.reverse_cons, List.append_assoc]
    rfl

end

/-! ## Writes -/

/-- Attempts after which a write goes on, each with what is left to write before it, and what is left
after them. -/
inductive GoesOn : Bytes → List Attempt → Bytes → Prop where
  | none (data : Bytes) : GoesOn data [] data
  | part {data rest : Bytes} {count : Nat} {attempts : List Attempt} (some : data ≠ [])
      (positive : count ≠ 0) (more : GoesOn (data.drop count) attempts rest) :
      GoesOn data (⟨data, .upTo count, []⟩ :: attempts) rest
  | interrupted {data rest : Bytes} {attempts : List Attempt} (some : data ≠ [])
      (more : GoesOn data attempts rest) : GoesOn data (⟨data, .interrupted, []⟩ :: attempts) rest
  | waited {data rest : Bytes} {attempts : List Attempt} (tries : Nat) (some : data ≠ [])
      (more : GoesOn data attempts rest) :
      GoesOn data (⟨data, .noRoom, List.replicate tries .interrupted ++ [.ready]⟩ :: attempts) rest

/-- How a write ends: nothing is left to write, or there is a last attempt at what is. -/
inductive Ends : Bytes → List Attempt → Except IoError Unit → Prop where
  | done : Ends [] [] (.ok ())
  | nothing {rest : Bytes} (some : rest ≠ []) : Ends rest [⟨rest, .upTo 0, []⟩] (.ok ())
  | failed {rest : Bytes} (cause : IoError) (some : rest ≠ []) :
      Ends rest [⟨rest, .fails cause, []⟩] (.error cause)
  | waitFailed {rest : Bytes} (tries : Nat) (cause : IoError) (some : rest ≠ []) :
      Ends rest [⟨rest, .noRoom, List.replicate tries .interrupted ++ [.fails cause]⟩] (.error cause)

/-- Waiting for room once. An interrupted wait is repeated. -/
theorem waitForRoom_eq (descriptor : Descriptor) :
    waitForRoom descriptor descriptor.waits =
      match descriptor.nextWait with
      | .ready => (.ok (), descriptor.afterWait)
      | .interrupted => waitForRoom descriptor.afterWait descriptor.afterWait.waits
      | .fails cause => (.error cause, descriptor.afterWait) := by
  -- The replies are given apart, and those that the descriptor itself holds are replaced in the end.
  have given (descriptor : Descriptor) (waits replies : List WaitReply) :
      waitForRoom { descriptor with waits } replies = waitForRoom descriptor replies := by
    induction replies generalizing descriptor with
    | nil => rfl
    | cons reply rest ih =>
      cases reply with
      | interrupted => exact ih { descriptor with calls := .wait :: descriptor.calls }
      | _ => rfl
  rw [nextWait, afterWait]
  rcases descriptor.waits with _ | ⟨_ | _ | cause, rest⟩
  · rfl
  · rfl
  · exact (given { descriptor with calls := .wait :: descriptor.calls } rest rest).symm
  · rfl

/-- Waiting for room goes on while it is interrupted, until it succeeds or fails. -/
theorem waitForRoom_waits (descriptor : Descriptor) :
    ∃ tries after,
      (waitForRoom descriptor descriptor.waits = (.ok (), after) ∧
        Waits descriptor (List.replicate tries .interrupted ++ [.ready]) after) ∨
      ∃ cause, waitForRoom descriptor descriptor.waits = (.error cause, after) ∧
        Waits descriptor (List.replicate tries .interrupted ++ [.fails cause]) after := by
  rw [waitForRoom_eq]
  cases next : descriptor.nextWait with
  | ready => exact ⟨0, _, .inl ⟨rfl, .next next (.none _)⟩⟩
  | fails cause => exact ⟨0, _, .inr ⟨cause, rfl, .next next (.none _)⟩⟩
  | interrupted =>
    have fewer : descriptor.afterWait.waits.length < descriptor.waits.length := by
      rw [afterWait, List.length_tail]
      rw [nextWait] at next
      cases coming : descriptor.waits with
      | nil =>
        rw [coming] at next
        cases next
      | cons reply rest => exact Nat.lt_succ_self _
    obtain ⟨tries, after, ⟨ended, waits⟩ | ⟨cause, ended, waits⟩⟩ := waitForRoom_waits descriptor.afterWait
    · exact ⟨tries + 1, after, .inl ⟨ended, .next next waits⟩⟩
    · exact ⟨tries + 1, after, .inr ⟨cause, ended, .next next waits⟩⟩
termination_by descriptor.waits.length

private theorem writes_of_waits {descriptor after : Descriptor} {replies : List WaitReply}
    (waits : Waits descriptor replies after) : after.writes = descriptor.writes := by
  induction waits with
  | none => rfl
  | next _ _ ih => exact ih

private theorem writeRest_nil (taken : Nat) (descriptor : Descriptor) :
    writeRest taken descriptor [] descriptor.writes = (.ok taken, descriptor) := by
  rw [writeRest.eq_def]
  rfl

/-- Writing what is left of a buffer is a loop of attempts. -/
theorem writeRest_eq {data : Bytes} (taken : Nat) (descriptor : Descriptor) (some : data ≠ []) :
    writeRest taken descriptor data descriptor.writes =
      match descriptor.nextWrite data with
      | .upTo count =>
        if min count data.length = 0 then (.ok taken, descriptor.afterWrite data)
        else writeRest (taken + min count data.length) (descriptor.afterWrite data)
          (data.drop (min count data.length)) (descriptor.afterWrite data).writes
      | .interrupted =>
        writeRest taken (descriptor.afterWrite data) data (descriptor.afterWrite data).writes
      | .fails cause => (.error cause, descriptor.afterWrite data)
      | .noRoom =>
        match waitForRoom (descriptor.afterWrite data) (descriptor.afterWrite data).waits with
        | (.ok _, after) => writeRest taken after data (descriptor.afterWrite data).writes
        | (.error cause, after) => (.error cause, after) := by
  rw [writeRest.eq_def, if_neg (by simpa using some), nextWrite, afterWrite, nextWrite]
  rcases descriptor.writes with _ | ⟨_ | _ | _ | cause, rest⟩
  · -- Replies that are used up are as one that takes everything.
    have length : data.length ≠ 0 := by simpa using some
    simp only [List.headD, WriteReply.count, Nat.min_self, if_neg length, List.drop_length]
    rw [writeRest_nil]
    rfl
  all_goals rfl

/-- A reply other than to take bytes is used up. -/
theorem length_afterWrite_lt {descriptor : Descriptor} {offer : Bytes} {reply : WriteReply}
    (next : descriptor.nextWrite offer = reply) (other : ∀ count, reply ≠ .upTo count) :
    (descriptor.afterWrite offer).writes.length < descriptor.writes.length := by
  rw [afterWrite, take, List.length_tail]
  rw [nextWrite] at next
  cases coming : descriptor.writes with
  | nil =>
    rw [coming] at next
    exact absurd next.symm (other _)
  | cons first rest => exact Nat.lt_succ_self _

private theorem length_afterWrite_le (descriptor : Descriptor) (offer : Bytes) :
    (descriptor.afterWrite offer).writes.length ≤ descriptor.writes.length := by
  rw [afterWrite, take, List.length_tail]
  exact Nat.sub_le _ _

/-- Writing what is left of a buffer is a row of attempts, of which only the last may end it. -/
theorem writeRest_tried (taken : Nat) (descriptor : Descriptor) (data : Bytes) :
    ∃ earlier last rest ending after,
      writeRest taken descriptor data descriptor.writes =
        (ending.map fun _ => taken + (takenBy earlier).length, after) ∧
      Tried descriptor (earlier ++ last) after ∧ GoesOn data earlier rest ∧ Ends rest last ending := by
  by_cases none : data = []
  · subst none
    exact ⟨[], [], [], .ok (), descriptor, writeRest_nil taken descriptor, .none _, .none _, .done⟩
  rw [writeRest_eq taken descriptor none]
  cases next : descriptor.nextWrite data with
  | fails cause =>
    exact ⟨[], _, data, _, _, rfl, .next next (.none _) (.none _), .none _, .failed cause none⟩
  | interrupted =>
    have fewer := length_afterWrite_lt next nofun
    obtain ⟨earlier, last, rest, ending, after, wrote, tried, goes, ends⟩ :=
      writeRest_tried taken (descriptor.afterWrite data) data
    exact ⟨⟨data, .interrupted, []⟩ :: earlier, last, rest, ending, after, wrote,
      .next next (.none _) tried, .interrupted none goes, ends⟩
  | upTo count =>
    dsimp only
    split
    case isTrue zero =>
      have length : data.length ≠ 0 := by simpa using none
      obtain rfl : count = 0 := by omega
      exact ⟨[], _, data, .ok (), _, rfl, .next next (.none _) (.none _), .none _, .nothing none⟩
    case isFalse positive =>
      have fewer : (descriptor.afterWrite data).writes.length + (data.length - min count data.length) <
          descriptor.writes.length + data.length := by
        have := length_afterWrite_le descriptor data
        omega
      obtain ⟨earlier, last, rest, ending, after, wrote, tried, goes, ends⟩ :=
        writeRest_tried (taken + min count data.length) (descriptor.afterWrite data)
          (data.drop (min count data.length))
      have some : count ≠ 0 := by
        rintro rfl
        exact positive (Nat.zero_min _)
      rw [← List.drop_eq_drop_min] at goes
      refine ⟨⟨data, .upTo count, []⟩ :: earlier, last, rest, ending, after, ?_,
        .next next (.none _) tried, .part none some goes, ends⟩
      rw [wrote]
      simp [takenBy, Attempt.taken, WriteReply.count, Nat.add_assoc]
  | noRoom =>
    obtain ⟨tries, after, ⟨ended, waits⟩ | ⟨cause, ended, waits⟩⟩ :=
      waitForRoom_waits (descriptor.afterWrite data)
    · have fewer : after.writes.length < descriptor.writes.length := by
        rw [writes_of_waits waits]
        exact length_afterWrite_lt next nofun
      rw [ended, ← writes_of_waits waits]
      obtain ⟨earlier, last, rest, ending, after, wrote, tried, goes, ends⟩ :=
        writeRest_tried taken after data
      exact ⟨⟨data, .noRoom, _⟩ :: earlier, last, rest, ending, after, wrote, .next next waits tried,
        .waited tries none goes, ends⟩
    · rw [ended]
      exact ⟨[], _, data, _, after, rfl, .next next waits (.none _), .none _,
        .waitFailed tries cause none⟩
termination_by descriptor.writes.length + data.length

/-- A write to a descriptor is such a row of attempts at its buffer. -/
theorem write_tried {descriptor after : Descriptor} {data : Bytes} {result : Except IoError Nat}
    (wrote : descriptor.write data = (result, after)) :
    ∃ earlier last rest ending, result = ending.map (fun _ => (takenBy earlier).length) ∧
      Tried descriptor (earlier ++ last) after ∧ GoesOn data earlier rest ∧ Ends rest last ending := by
  obtain ⟨earlier, last, rest, ending, _, ended, tried, goes, ends⟩ := writeRest_tried 0 descriptor data
  rw [write, ended, Prod.mk.injEq] at wrote
  obtain ⟨rfl, rfl⟩ := wrote
  simp only [Nat.zero_add]
  exact ⟨earlier, last, rest, ending, rfl, tried, goes, ends⟩

/-! ## What is delivered -/

/-- Each attempt offers what the attempts before it have left. -/
def InTurn : Bytes → List Attempt → Prop
  | _, [] => True
  | data, attempt :: later => attempt.offer = data ∧ InTurn (data.drop attempt.taken.length) later

section

variable {data rest : Bytes} {attempts earlier last : List Attempt} {ending : Except IoError Unit}

private theorem takenBy_cons (attempt : Attempt) (attempts : List Attempt) :
    takenBy (attempt :: attempts) = attempt.taken ++ takenBy attempts :=
  List.flatMap_cons

private theorem taken_upTo (offer : Bytes) (count : Nat) (waits : List WaitReply) :
    Attempt.taken ⟨offer, .upTo count, waits⟩ = offer.take count :=
  List.take_eq_take_min.symm

private theorem drop_length_take (data : Bytes) (count : Nat) :
    data.drop (data.take count).length = data.drop count := by
  rw [List.length_take, ← List.drop_eq_drop_min]

/-- Attempts take the bytes before those that they leave. -/
theorem GoesOn.parts (goes : GoesOn data attempts rest) : data = takenBy attempts ++ rest := by
  induction goes with
  | none => rfl
  | part _ _ _ ih => rw [takenBy_cons, taken_upTo, List.append_assoc, ← ih, List.take_append_drop]
  | interrupted _ _ ih => exact ih
  | waited _ _ _ ih => exact ih

/-- Only attempts of which a part was taken have taken anything. -/
theorem GoesOn.takenBy_eq_nil_iff (goes : GoesOn data attempts rest) :
    takenBy attempts = [] ↔ ∀ attempt ∈ attempts, ∀ count, attempt.reply ≠ .upTo count := by
  induction goes with
  | none => exact ⟨fun _ => List.forall_mem_nil _, fun _ => rfl⟩
  | @part data rest count attempts some positive _ _ =>
    constructor
    · intro nothing
      rw [takenBy_cons, taken_upTo, List.append_eq_nil_iff, List.take_eq_nil_iff] at nothing
      exact absurd nothing.1 (not_or.mpr ⟨positive, some⟩)
    · intro other
      exact absurd rfl (other _ List.mem_cons_self count)
  | interrupted _ _ ih =>
    rw [List.forall_mem_cons, ← ih]
    exact (and_iff_right nofun).symm
  | waited _ _ _ ih =>
    rw [List.forall_mem_cons, ← ih]
    exact (and_iff_right nofun).symm

private theorem inTurn_of_goesOn (goes : GoesOn data earlier rest) (ends : Ends rest last ending) :
    InTurn data (earlier ++ last) := by
  induction goes with
  | none =>
    cases ends with
    | done => trivial
    | _ => exact ⟨rfl, trivial⟩
  | part _ _ _ ih =>
    refine ⟨rfl, ?_⟩
    rw [taken_upTo, drop_length_take]
    exact ih ends
  | interrupted _ _ ih => exact ⟨rfl, ih ends⟩
  | waited _ _ _ ih => exact ⟨rfl, ih ends⟩

/-- An attempt without room after which a write goes on has waited until there is room. -/
theorem GoesOn.waits (goes : GoesOn data attempts rest) :
    ∀ attempt ∈ attempts, attempt.reply = .noRoom →
      ∃ tries, attempt.waits = List.replicate tries .interrupted ++ [.ready] := by
  induction goes with
  | none => exact List.forall_mem_nil _
  | part _ _ _ ih => exact List.forall_mem_cons.mpr ⟨nofun, ih⟩
  | interrupted _ _ ih => exact List.forall_mem_cons.mpr ⟨nofun, ih⟩
  | waited tries _ _ ih => exact List.forall_mem_cons.mpr ⟨fun _ => ⟨tries, rfl⟩, ih⟩

/-- There are no attempts at an empty buffer. -/
theorem GoesOn.eq_nil (goes : GoesOn [] attempts rest) : attempts = [] ∧ rest = [] := by
  cases goes with
  | none => exact ⟨rfl, rfl⟩
  | part some => exact absurd rfl some
  | interrupted some => exact absurd rfl some
  | waited _ some => exact absurd rfl some

private theorem Ends.eq_nil (ends : Ends [] last ending) : last = [] := by
  cases ends with
  | done => rfl
  | nothing some => exact absurd rfl some
  | failed _ some => exact absurd rfl some
  | waitFailed _ _ some => exact absurd rfl some

/-- The last attempt takes nothing. -/
theorem takenBy_append (earlier : List Attempt) (ends : Ends rest last ending) :
    takenBy (earlier ++ last) = takenBy earlier := by
  rw [takenBy, List.flatMap_append]
  cases ends <;> exact List.append_nil _

end

/-- A write to a descriptor that succeeds is a row of attempts, whatever the descriptor does with them,
and makes the calls of these. It has delivered as many of the first bytes of its buffer as it says, each
of them once and in order, as each attempt offers what those before it have left. It says fewer than all
only if its last attempt offered what is left and nothing of that was taken. An attempt for which there
was no room is followed by waits until there is. An empty buffer causes no call. -/
theorem write_delivers {descriptor after : Descriptor} {data : Bytes} {n : Nat}
    (wrote : descriptor.write data = (.ok n, after)) :
    ∃ attempts, Tried descriptor attempts after ∧
      after.calls = (attempts.flatMap Attempt.calls).reverse ++ descriptor.calls ∧
      n ≤ data.length ∧ after.received = descriptor.received ++ data.take n ∧ InTurn data attempts ∧
      (n < data.length → ∃ earlier, attempts = earlier ++ [⟨data.drop n, .upTo 0, []⟩]) ∧
      (∀ attempt ∈ attempts, attempt.reply = .noRoom →
        ∃ tries, attempt.waits = List.replicate tries .interrupted ++ [.ready]) ∧
      (data = [] → attempts = [] ∧ after = descriptor) := by
  obtain ⟨earlier, last, rest, ending, count, tried, goes, ends⟩ := write_tried wrote
  have parts := goes.parts
  cases ending with
  | error cause => cases count
  | ok done =>
    obtain rfl := Except.ok.inj count
    have taken : data.take (takenBy earlier).length = takenBy earlier := by rw [parts, List.take_left]
    have left : data.drop (takenBy earlier).length = rest := by rw [parts, List.drop_left]
    refine ⟨earlier ++ last, tried, tried.calls, ?_, ?_, inTurn_of_goesOn goes ends, ?_, ?_, ?_⟩
    · rw [parts, List.length_append]
      exact Nat.le_add_right _ _
    · rw [tried.received, takenBy_append earlier ends, taken]
    · intro short
      rw [left]
      cases ends with
      | done =>
        rw [parts, List.append_nil] at short
        exact absurd short (Nat.lt_irrefl _)
      | nothing some => exact ⟨earlier, rfl⟩
    · rw [List.forall_mem_append]
      refine ⟨goes.waits, ?_⟩
      cases ends with
      | done => exact List.forall_mem_nil _
      | nothing some => exact List.forall_mem_singleton.mpr nofun
    · rintro rfl
      obtain ⟨rfl, rfl⟩ := goes.eq_nil
      obtain rfl := ends.eq_nil
      cases tried
      exact ⟨rfl, rfl⟩

/-- A write that is cut, finds no room and is interrupted says that two bytes of three were taken when
the last one is not. -/
theorem write_delivers_two :
    ∃ attempts after,
      (replying [.upTo 2, .noRoom, .interrupted, .upTo 0] [.interrupted, .ready]).write [1, 2, 3] =
        (.ok 2, after) ∧
      after.calls.reverse = [.write 3, .write 1, .wait, .wait, .write 1, .write 1] ∧
      after.calls = (attempts.flatMap Attempt.calls).reverse ∧
      after.received = [1, 2] ∧ ∃ earlier, attempts = earlier ++ [⟨[3], .upTo 0, []⟩] := by
  have wrote : (replying [.upTo 2, .noRoom, .interrupted, .upTo 0] [.interrupted, .ready]).write [1, 2, 3] =
      (.ok 2, _) := rfl
  obtain ⟨attempts, -, calls, -, received, -, short, -, -⟩ := write_delivers wrote
  exact ⟨attempts, _, wrote, rfl, calls.trans (List.append_nil _), received, short (by decide)⟩

/-- A write to a descriptor that fails has delivered the bytes that its attempts before the failure
took. So it has delivered nothing exactly if no attempt took a part of the bytes. -/
theorem failed_write_delivers_iff {descriptor after : Descriptor} {data : Bytes} {cause : IoError}
    (failed : descriptor.write data = (.error cause, after)) :
    ∃ attempts rest, Tried descriptor attempts after ∧ InTurn data attempts ∧
      data = takenBy attempts ++ rest ∧ rest ≠ [] ∧
      after.received = descriptor.received ++ takenBy attempts ∧
      (after.received = descriptor.received ↔
        ∀ attempt ∈ attempts, ∀ count, attempt.reply ≠ .upTo count) := by
  obtain ⟨earlier, last, rest, ending, fault, tried, goes, ends⟩ := write_tried failed
  have all := takenBy_append earlier ends
  refine ⟨earlier ++ last, rest, tried, inTurn_of_goesOn goes ends, ?_, ?_, tried.received, ?_⟩
  · rw [all]
    exact goes.parts
  · cases ends with
    | failed _ some => exact some
    | waitFailed _ _ some => exact some
    | _ => cases fault
  · -- The last attempt is the one that failed, or the one whose wait did; neither took a part.
    rw [tried.received, all, List.append_right_eq_self, goes.takenBy_eq_nil_iff, List.forall_mem_append]
    refine (and_iff_left ?_).symm
    cases ends with
    | failed _ some => exact List.forall_mem_singleton.mpr nofun
    | waitFailed _ _ some => exact List.forall_mem_singleton.mpr nofun
    | _ => cases fault

/-- A write that fails for want of room after two bytes of three were taken has delivered these. -/
theorem failed_write_delivers_two :
    ∃ attempts rest after,
      (replying [.upTo 2, .noRoom] [.fails .brokenPipe]).write [1, 2, 3] = (.error .brokenPipe, after) ∧
      [1, 2, 3] = takenBy attempts ++ rest ∧ after.received = takenBy attempts ∧
      ¬ ∀ attempt ∈ attempts, ∀ count, attempt.reply ≠ .upTo count := by
  have failed : (replying [.upTo 2, .noRoom] [.fails .brokenPipe]).write [1, 2, 3] =
      (.error .brokenPipe, _) := rfl
  obtain ⟨attempts, rest, -, -, parts, -, received, nothing⟩ := failed_write_delivers_iff failed
  refine ⟨attempts, rest, _, failed, parts, received, ?_⟩
  rw [← nothing]
  exact nofun

/-- A write to a descriptor that fails may have delivered a part of its buffer. -/
theorem failed_write_delivers_part :
    ¬ ∀ (descriptor after : Descriptor) (data : Bytes) (cause : IoError),
      descriptor.write data = (.error cause, after) → after.received = descriptor.received := by
  intro nothing
  have received := nothing (replying [.upTo 3, .fails .brokenPipe] []) _ [1, 2, 3, 4] _ rfl
  cases received

end TermTape.Descriptor

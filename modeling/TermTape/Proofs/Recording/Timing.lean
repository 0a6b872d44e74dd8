import Mathlib.Algebra.Ring.Nat
import TermTape.Recording.Stream

/-!
# The time of a stream

Whatever writes and closes a stream gets, and at whatever moments, each call waits from the moment of
the call before it, or from the start. The waits are what the frames and the closes show, and the
stream counts each of them once (`run_accounts`). If time never goes back they add up to no more than
the time that passed, and to all of it exactly if no wait was cut (`timing_accounted`).
-/
namespace TermTape.FrameStream

variable {limit : Duration} {start earlier later : Instant} {moments : List Instant}

/-! ## Calls -/

/-- A call on a stream at a moment. -/
inductive Call where
  | write (data : Bytes) (moment : Instant)
  | close (moment : Instant)

namespace Call

/-- The moment of a call. -/
def moment : Call → Instant
  | .write _ moment | .close moment => moment

/-- The bytes that a call writes. -/
def data? : Call → Option Bytes
  | .write data _ => some data
  | .close _ => none

/-- The frame of a call that waited: a write makes one, of its bytes. -/
def frame? : Call → Duration → Option Frame
  | .write data _, wait => some ⟨wait.seconds, data⟩
  | .close _, _ => none

/-- What is returned by a call that waited: a close returns its wait. -/
def returned? : Call → Duration → Option Duration
  | .write .., _ => none
  | .close _, wait => some wait

end Call

/-- Make a call: what it returns, and the stream after it. -/
def step (stream : FrameStream) : Call → Option Duration × FrameStream
  | .write data moment => (none, stream.write data moment)
  | .close moment => (some (stream.close moment).1, (stream.close moment).2)

/-- Make calls in turn: what they return, and the stream after all of them. -/
def run (stream : FrameStream) : List Call → List Duration × FrameStream
  | [] => ([], stream)
  | call :: rest =>
    let others := run (stream.step call).2 rest
    ((stream.step call).1.toList ++ others.1, others.2)

/-! ## Waits -/

/-- The intervals between moments, the first from a start. -/
def intervals (start : Instant) (moments : List Instant) : List (Instant × Instant) :=
  (start :: moments).zip moments

/-- The nanoseconds that pass from one moment to another, below zero if time goes back. -/
def passed (earlier later : Instant) : Int := later - earlier

/-- The wait between two moments: none if time goes back, and no more than the limit if there is
one. -/
def waitBetween (limit : Duration) (earlier later : Instant) : Duration :=
  let gap := (max 0 (passed earlier later)).toNat
  ⟨if limit.nanoseconds = 0 then gap else min gap limit.nanoseconds⟩

/-- The waits of calls at moments. -/
def waitsOf (limit : Duration) (start : Instant) (moments : List Instant) : List Duration :=
  (intervals start moments).map fun (earlier, later) => waitBetween limit earlier later

/-- The nanoseconds of some waits together. -/
def total (waits : List Duration) : Nat := (waits.map Duration.nanoseconds).sum

theorem waitsOf_cons (limit : Duration) (start moment : Instant) (moments : List Instant) :
    waitsOf limit start (moment :: moments) =
      waitBetween limit start moment :: waitsOf limit moment moments :=
  rfl

private theorem total_cons (wait : Duration) (waits : List Duration) :
    total (wait :: waits) = wait.nanoseconds + total waits :=
  List.sum_cons

theorem length_waitsOf (limit : Duration) (start : Instant) (moments : List Instant) :
    (waitsOf limit start moments).length = moments.length := by
  simp [waitsOf, intervals]

theorem waitBetween_le_limit (earlier later : Instant) :
    limit.nanoseconds = 0 ∨ waitBetween limit earlier later ≤ limit := by
  by_cases zero : limit.nanoseconds = 0
  · exact .inl zero
  · right
    rw [waitBetween, if_neg zero]
    exact Nat.min_le_right ..

private theorem passed_add_passed (earlier middle later : Instant) :
    passed earlier middle + passed middle later = passed earlier later := by
  unfold passed
  omega

/-- A wait forward in time is the time that passes exactly if it is not cut. -/
theorem waitBetween_forward (limit : Duration) (forward : earlier ≤ later) :
    ((waitBetween limit earlier later).nanoseconds : Int) ≤ passed earlier later ∧
      (((waitBetween limit earlier later).nanoseconds : Int) = passed earlier later ↔
        limit.nanoseconds = 0 ∨ passed earlier later ≤ limit.nanoseconds) := by
  have forward : 0 ≤ passed earlier later := Int.sub_nonneg.mpr forward
  rw [waitBetween]
  dsimp only
  split <;> omega

/-- Waits forward in time add up to the time that passes exactly if none is cut. -/
theorem total_waitsOf_forward (forward : (start :: moments).Pairwise (· ≤ ·)) :
    (total (waitsOf limit start moments) : Int) ≤ passed start (moments.getLastD start) ∧
      ((total (waitsOf limit start moments) : Int) = passed start (moments.getLastD start) ↔
        limit.nanoseconds = 0 ∨
          ∀ interval ∈ intervals start moments, passed interval.1 interval.2 ≤ limit.nanoseconds) := by
  induction moments generalizing start with
  | nil => simp [waitsOf, intervals, total, passed]
  | cons moment others ih =>
    obtain ⟨first, rest⟩ := List.pairwise_cons.mp forward
    obtain ⟨wait, whole⟩ := waitBetween_forward limit (first moment List.mem_cons_self)
    obtain ⟨below, equal⟩ := ih rest
    have together := passed_add_passed start moment (others.getLastD moment)
    have each : (∀ interval ∈ intervals start (moment :: others),
          passed interval.1 interval.2 ≤ limit.nanoseconds) ↔
        passed start moment ≤ limit.nanoseconds ∧
          ∀ interval ∈ intervals moment others, passed interval.1 interval.2 ≤ limit.nanoseconds :=
      List.forall_mem_cons
    rw [waitsOf_cons, total_cons, List.getLastD_cons, each, or_and_left, ← whole, ← equal, ← together]
    -- Each part is at most what it stands for, so the sums agree only if both parts do.
    constructor
    · omega
    · omega

/-! ## What a stream counts -/

theorem delayAt_eq_waitBetween (stream : FrameStream) (now : Instant) :
    stream.delayAt now = waitBetween stream.maxWait stream.last now := by
  have gap : (max 0 (passed stream.last now)).toNat = (now - stream.last).toNat := by
    unfold passed
    omega
  rw [delayAt, Duration.cut, waitBetween, Duration.between, Duration.isZero, gap]
  by_cases zero : stream.maxWait.nanoseconds = 0
  · rw [if_pos zero, if_pos (beq_iff_eq.mpr zero)]
  rw [if_neg zero, if_neg (by simpa using zero)]
  split
  case isTrue within => rw [Nat.min_eq_left within]
  case isFalse beyond => rw [Nat.min_eq_right (Nat.le_of_not_le beyond)]

/-- A call that waited adds its frame and its wait to a stream, and the next call waits from its
moment on. -/
structure Counts (stream : FrameStream) (call : Call) (wait : Duration) (after : FrameStream) : Prop where
  frames : after.frames = stream.frames ++ (call.frame? wait).toList
  elapsed : after.elapsed.nanoseconds = stream.elapsed.nanoseconds + wait.nanoseconds
  last : after.last = call.moment
  maxWait : after.maxWait = stream.maxWait

private theorem step_counts (stream : FrameStream) (call : Call) :
    let wait := waitBetween stream.maxWait stream.last call.moment
    (stream.step call).1 = call.returned? wait ∧ stream.Counts call wait (stream.step call).2 := by
  dsimp only
  rw [← delayAt_eq_waitBetween]
  cases call with
  | write data moment => exact ⟨rfl, rfl, rfl, rfl, rfl⟩
  | close moment => exact ⟨rfl, (List.append_nil _).symm, rfl, rfl, rfl⟩

/-- The frames of calls that waited. -/
def framesOf (calls : List Call) (waits : List Duration) : List Frame :=
  (calls.zip waits).flatMap fun (call, wait) => (call.frame? wait).toList

/-- What calls return that waited. -/
def returnsOf (calls : List Call) (waits : List Duration) : List Duration :=
  (calls.zip waits).flatMap fun (call, wait) => (call.returned? wait).toList

private theorem data_framesOf {calls : List Call} {waits : List Duration}
    (each : waits.length = calls.length) :
    (framesOf calls waits).map Frame.data = calls.filterMap Call.data? := by
  induction calls generalizing waits with
  | nil => rfl
  | cons call others ih =>
    cases waits with
    | nil => cases each
    | cons wait rest =>
      have later := ih (Nat.succ.inj each)
      cases call with
      | write data moment => exact congrArg (data :: ·) later
      | close moment => exact later

/-- Calls in turn return the waits of the closes, and add their frames and all of their waits to a
stream. -/
structure Accounts (stream : FrameStream) (calls : List Call) (waits returns : List Duration)
    (after : FrameStream) : Prop where
  returns : returns = returnsOf calls waits
  frames : after.frames = stream.frames ++ framesOf calls waits
  elapsed : after.elapsed.nanoseconds = stream.elapsed.nanoseconds + total waits
  last : after.last = (calls.map Call.moment).getLastD stream.last
  maxWait : after.maxWait = stream.maxWait

theorem run_accounts (stream : FrameStream) (calls : List Call) :
    stream.Accounts calls (waitsOf stream.maxWait stream.last (calls.map Call.moment))
      (stream.run calls).1 (stream.run calls).2 := by
  induction calls generalizing stream with
  | nil => exact ⟨rfl, (List.append_nil _).symm, rfl, rfl, rfl⟩
  | cons call others ih =>
    obtain ⟨returned, counts⟩ := step_counts stream call
    -- The calls that follow wait from the moment of this one, under the same limit.
    have rest := ih (stream.step call).2
    rw [counts.last, counts.maxWait] at rest
    rw [run, List.map_cons, waitsOf_cons]
    constructor
    case returns =>
      rw [returned, rest.returns]
      rfl
    case frames =>
      rw [rest.frames, counts.frames, List.append_assoc]
      rfl
    case elapsed => rw [rest.elapsed, counts.elapsed, total_cons, Nat.add_assoc]
    case last => rw [rest.last, counts.last, List.map_cons, List.getLastD_cons]
    case maxWait => exact rest.maxWait.trans counts.maxWait

/-- Whatever writes and closes a stream gets, and at whatever moments, it has a frame for each write,
with its bytes. The delays of the frames and what the closes return are the waits of these calls, each
from the moment of the call before it, and the stream counts all waits together. If time never goes
back it counts no more than the time that passed, and all of it exactly if there is no limit or no
time between two calls was longer. -/
theorem timing_accounted (maxWait : Duration) (start : Instant) (calls : List Call) :
    ∃ returns stream, (starting maxWait start).run calls = (returns, stream) ∧
      let moments := calls.map Call.moment
      let waits := waitsOf maxWait start moments
      waits.length = calls.length ∧
      stream.frames = framesOf calls waits ∧
      stream.frames.map Frame.data = calls.filterMap Call.data? ∧
      returns = returnsOf calls waits ∧
      stream.elapsed.nanoseconds = (waits.map Duration.nanoseconds).sum ∧
      ((start :: moments).Pairwise (· ≤ ·) →
        (stream.elapsed.nanoseconds : Int) ≤ passed start (moments.getLastD start) ∧
          ((stream.elapsed.nanoseconds : Int) = passed start (moments.getLastD start) ↔
            maxWait.nanoseconds = 0 ∨
              ∀ interval ∈ intervals start moments,
                passed interval.1 interval.2 ≤ maxWait.nanoseconds)) := by
  have ran := run_accounts (starting maxWait start) calls
  have each : (waitsOf maxWait start (calls.map Call.moment)).length = calls.length := by
    rw [length_waitsOf, List.length_map]
  have elapsed := ran.elapsed.trans (Nat.zero_add _)
  refine ⟨_, _, rfl, each, ran.frames, ?_, ran.returns, elapsed, fun forward => ?_⟩
  · rw [← data_framesOf each]
    exact congrArg (List.map Frame.data) ran.frames
  · rw [elapsed]
    exact total_waitsOf_forward forward

/-- A close between two writes counts its time once, and the wait that is cut is the only loss. -/
theorem timing_accounted_cut :
    (0 :: [1500000000, 1500000000, 2000000000, 9000000000] : List Instant).Pairwise (· ≤ ·) ∧
      ∃ returns stream, (starting ⟨2000000000⟩ 0).run [.write [0x61] 1500000000, .write [] 1500000000,
          .close 2000000000, .write [0xff] 9000000000] = (returns, stream) ∧
        returns = [⟨500000000⟩] ∧ stream.elapsed.nanoseconds = 4000000000 ∧
        (stream.elapsed.nanoseconds : Int) ≤ passed 0 9000000000 := by
  have forward : (0 :: [1500000000, 1500000000, 2000000000, 9000000000] : List Instant).Pairwise
      (· ≤ ·) := by decide
  obtain ⟨returns, stream, ran, -, -, -, returned, elapsed, bounds⟩ := timing_accounted ⟨2000000000⟩ 0
    [.write [0x61] 1500000000, .write [] 1500000000, .close 2000000000, .write [0xff] 9000000000]
  exact ⟨forward, returns, stream, ran, returned, elapsed, (bounds forward).1⟩

end TermTape.FrameStream

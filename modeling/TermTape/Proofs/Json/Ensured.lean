import TermTape.Proofs.Json.Reading
import TermTape.Proofs.Number.FixedText
import TermTape.Proofs.Number.Order

/-!
# What readers ensure

What holds of the result of every step that is no fault holds of what a reader gives (`Ensures`). A
property of the state that every member keeps holds after the last member (`readMembers_ensures`).

A text cannot name an infinite number: a whole number of 64 bits is far below the overflow threshold
(`isFinite_ofWhole`), and any other number is refused when it rounds to infinity (`real_finite`), so
every number that is read is finite (`readReal_finite`).
-/
namespace TermTape

/-! ## Results that have a property -/

variable {ε α β σ : Type} {P : α → Prop} {Q : β → Prop}

/-- A property holds of the result, unless there is a fault. -/
def Ensures (P : α → Prop) (x : Except ε α) : Prop := ∀ a, x = .ok a → P a

namespace Ensures

theorem ok {a : α} (holds : P a) : Ensures P (.ok a : Except ε α) := by
  intro b same
  cases same
  exact holds

theorem error (fault : ε) : Ensures P (.error fault : Except ε α) := nofun

theorem bind {x : Except ε α} {f : α → Except ε β} (first : Ensures P x)
    (later : ∀ a, P a → Ensures Q (f a)) : Ensures Q (x >>= f) := by
  intro b made
  obtain ⟨a, given, rest⟩ := ok_of_bind made
  exact later a (first a given) b rest

/-- A step of which nothing needs to be known. -/
theorem after {x : Except ε α} {f : α → Except ε β} (later : ∀ a, Ensures Q (f a)) :
    Ensures Q (x >>= f) := by
  have anything : Ensures (fun _ => True) x := fun _ _ => trivial
  exact anything.bind fun a _ => later a

end Ensures

/-! ## Whole numbers -/

/-- The number nearest to a whole number of 64 bits is finite. -/
theorem isFinite_ofWhole (negative : Bool) {n : Nat} (small : n ≤ 2 ^ 64) :
    (Binary64.ofQuotient negative (n * Nat.pow 2 unitPlaces) 1).isFinite = true := by
  have representable : Representable (nearestUnits (n * oneUnits) 1) :=
    representable_of_le_two_pow (granular_nearestUnits _ Nat.one_pos) (nearestUnits_whole_le small)
      (by decide)
  rw [oneUnits_def, Binary64.ofQuotient, ofUnits_of_representable representable]
  rfl

namespace Json

variable {ending : Ending}

/-! ## Parts of lists and objects -/

private theorem Ending.ensures_atEnd (ending : Ending) (cause : Malformed) :
    Ensures P (ending.atEnd cause) := by
  cases ending with
  | ends => exact .error _
  | fails cause => exact .error _

private theorem refuseKind_ensures (expected : String) (input : Bytes) :
    Ensures P (refuseKind ending expected input) := .after fun _ => .error _

theorem memberValue_ensures {value : Reader α}
    (given : ∀ input, Ensures (fun given => P given.1) (value input)) (input : Bytes) :
    Ensures (fun given => P given.1) (memberValue ending value input) := by
  apply Ensures.after
  rintro ⟨rest, _⟩
  exact (given rest).bind fun _ holds => .ok holds

/-- What every member keeps holds of the state after all members. -/
theorem readMembers_ensures {S : σ → Prop} {member : σ → String → Reader σ}
    (step : ∀ state key input, S state → Ensures (fun given => S given.1) (member state key input))
    (first : Bool) {state : σ} (input : Bytes) (holds : S state) :
    Ensures (fun given => S given.1) (readMembers ending member first state input) := by
  rw [readMembers]
  apply Ensures.after
  rintro (_ | ⟨key, start, _⟩)
  · exact .ok holds
  · refine (step state key start holds).bind ?_
    rintro ⟨later, rest, _⟩ holds
    exact (readMembers_ensures step false rest holds).bind fun _ holds => .ok holds
termination_by input.length

theorem nextField_ensures {value : Reader α}
    (given : ∀ input, Ensures (fun given => P given.1) (value input)) (first : Bool) (input : Bytes) :
    Ensures (fun given => ∀ x, given.1 = some x → P x) (nextField ending first value input) := by
  apply Ensures.after
  rintro (_ | ⟨start, _⟩)
  · exact .ok nofun
  · refine (given start).bind fun _ holds => .ok ?_
    intro x same
    cases same
    exact holds

theorem readBracketed_ensures {expected : String}
    {list object : (input : Bytes) → Except Fault (α × AtMost input)}
    (items : ∀ input, Ensures (fun given => P given.1) (list input))
    (members : ∀ input, Ensures (fun given => P given.1) (object input)) (input : Bytes) :
    Ensures (fun given => P given.1) (readBracketed ending expected list (some object) input) := by
  unfold readBracketed
  split
  · exact ending.ensures_atEnd _
  rename_i rest _
  split
  · refine (items rest).bind fun _ holds => ?_
    exact .after fun _ => .ok holds
  split
  · refine (members rest).bind fun _ holds => ?_
    exact .after fun _ => .ok holds
  · exact refuseKind_ensures _ _

/-! ## Numbers -/

/-- The real number that is nearest to a number is finite. -/
def Number.IsFinite (number : Number) : Prop := number.toReal.isFinite = true

private theorem real_finite (parts : Parts) : Ensures Number.IsFinite parts.real := by
  unfold Parts.real
  dsimp only
  split
  · rename_i finite
    exact .ok finite
  · exact .error _

private theorem wholeNumber_finite (negative : Bool) (digits : Bytes) :
    Ensures Number.IsFinite (wholeNumber negative digits) := by
  unfold wholeNumber
  extract_lets n
  split
  · split
    · rename_i bounds
      -- The sign is that of the whole number, and only its magnitude is rounded.
      have small : (-(n : Int)).natAbs ≤ 2 ^ 64 := by
        rw [Int.natAbs_neg, Int.natAbs_natCast]
        exact Nat.le_trans bounds.2 (by decide)
      exact .ok (isFinite_ofWhole _ small)
    · exact real_finite _
  · split
    · rename_i small
      exact .ok (isFinite_ofWhole _ (Nat.le_trans small (by decide)))
    · exact real_finite _

private theorem applyExponent_finite (parts : Parts) (below : Bool) (exponent : Nat)
    (rest : Bytes) :
    Ensures Number.IsFinite (applyExponent ending parts below exponent rest) := by
  unfold applyExponent
  split
  · exact .error _
  · exact .after fun _ => real_finite _

private theorem readExponent_finite (parts : Parts) (input : Bytes) :
    Ensures (fun given => given.1.IsFinite) (readExponent ending parts input) := by
  unfold readExponent
  apply Ensures.after
  intro _
  split
  · exact ending.ensures_atEnd _
  split
  · exact .error _
  · exact (applyExponent_finite parts _ _ _).bind fun _ finite => .ok finite

private theorem readFraction_finite (negative : Bool) (whole input : Bytes) :
    Ensures (fun given => given.1.IsFinite) (readFraction ending negative whole input) := by
  unfold readFraction
  apply Ensures.after
  intro _
  split
  · split
    · exact ending.ensures_atEnd _
    · exact (real_finite _).bind fun _ finite => .ok finite
  dsimp only
  split
  · exact .error _
  split
  · exact (readExponent_finite _ _).bind fun _ finite => .ok finite
  · exact (real_finite _).bind fun _ finite => .ok finite

private theorem readAfterWhole_finite (negative : Bool) (whole input : Bytes) :
    Ensures (fun given => given.1.IsFinite) (readAfterWhole ending negative whole input) := by
  cases input with
  | nil => exact .after fun _ => (wholeNumber_finite _ _).bind fun _ finite => .ok finite
  | cons b rest =>
    unfold readAfterWhole
    dsimp only
    split
    · exact (readFraction_finite negative whole rest).bind fun _ finite => .ok finite
    split
    · exact (readExponent_finite _ rest).bind fun _ finite => .ok finite
    · exact (wholeNumber_finite _ _).bind fun _ finite => .ok finite

private theorem readNumber_finite (negative : Bool) (input : Bytes) :
    Ensures (fun given => given.1.IsFinite) (readNumber ending negative input) := by
  cases input with
  | nil => exact ending.ensures_atEnd _
  | cons b rest =>
    unfold readNumber
    dsimp only
    split
    · exact .error _
    split
    · split
      · exact .error _
      · exact (readAfterWhole_finite negative _ rest).bind fun _ finite => .ok finite
    · exact (readAfterWhole_finite negative _ _).bind fun _ finite => .ok finite

/-! ## Real numbers -/

private theorem readAnyNumber_finite (expected : String) (input : Bytes) :
    Ensures (fun given => given.1.IsFinite) (readAnyNumber ending expected input) := by
  unfold readAnyNumber
  split
  · exact ending.ensures_atEnd _
  split
  · exact (readNumber_finite true _).bind fun _ finite => .ok finite
  split
  · exact (readNumber_finite false _).bind fun _ finite => .ok finite
  · exact refuseKind_ensures _ _

/-- Every real number that is read is finite. -/
theorem readReal_finite (input : Bytes) :
    Ensures (fun given => given.1.isFinite = true) (readReal ending input) :=
  (readAnyNumber_finite "f64" input).bind fun _ finite => .ok finite

/-- The number that may be missing is finite. -/
def FiniteIfAny (number : Option Binary64) : Prop := ∀ x, number = some x → x.isFinite = true

private theorem FiniteIfAny.of_some {x : Binary64} (finite : x.isFinite = true) :
    FiniteIfAny (some x) := by
  intro y same
  cases same
  exact finite

theorem readOptionalReal_finite (input : Bytes) :
    Ensures (fun given => FiniteIfAny given.1) (readOptionalReal ending input) := by
  unfold readOptionalReal
  split
  · split
    · exact .after fun _ => .ok nofun
    · exact (readReal_finite input).bind fun _ finite => .ok (.of_some finite)
  · exact (readReal_finite input).bind fun _ finite => .ok (.of_some finite)

end Json
end TermTape

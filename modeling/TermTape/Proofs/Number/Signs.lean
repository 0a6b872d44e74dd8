import TermTape.Duration

/-!
# Signs and sums

A sum is a number only if all its terms are (`isFinite_of_sum`). The seconds of a duration are never
below zero (`isBelowZero_seconds`), as they come from numbers without a sign by operations that give
none. Numbers that are no less than zero add up to one that is finite, or to infinity
(`atLeastZero_sum`).
-/
namespace TermTape

namespace Binary64

/-! ## Sums -/

theorem isFinite_of_add {x y : Binary64} (finite : (x + y).isFinite = true) :
    x.isFinite = true ∧ y.isFinite = true := by
  change (x.add y).isFinite = true at finite
  cases x with
  | nan => cases finite
  | infinite a =>
    cases y with
    | infinite b =>
      simp only [add] at finite
      split at finite <;> cases finite
    | _ => cases finite
  | finite => cases y <;> first | exact ⟨rfl, rfl⟩ | cases finite

theorem isFinite_of_foldl {numbers : List Binary64} {start : Binary64}
    (finite : (numbers.foldl (· + ·) start).isFinite = true) :
    start.isFinite = true ∧ ∀ x ∈ numbers, x.isFinite = true := by
  induction numbers generalizing start with
  | nil => exact ⟨finite, List.forall_mem_nil _⟩
  | cons x others ih =>
    obtain ⟨sum, more⟩ := ih finite
    obtain ⟨first, single⟩ := isFinite_of_add sum
    exact ⟨first, List.forall_mem_cons.mpr ⟨single, more⟩⟩

/-- All terms of a sum that is a number are numbers. -/
theorem isFinite_of_sum {numbers : List Binary64} (finite : (sum numbers).isFinite = true) :
    ∀ x ∈ numbers, x.isFinite = true :=
  (isFinite_of_foldl finite).2

/-! ## Signs -/

/-- A number without a minus sign. -/
def Unsigned : Binary64 → Prop
  | .nan => True
  | .infinite negative => negative = false
  | .finite negative _ _ => negative = false

theorem Unsigned.not_below {x : Binary64} (unsigned : x.Unsigned) : x.isBelowZero = false := by
  cases x <;> simp_all [Unsigned, isBelowZero]

theorem unsigned_ofUnits (units : Nat) : (ofUnits false units).Unsigned := by
  unfold ofUnits
  split <;> rfl

private theorem unsigned_ofNat (n : Nat) : (ofNat n).Unsigned := unsigned_ofUnits _

private theorem unsigned_add {x y : Binary64} (first : x.Unsigned) (second : y.Unsigned) :
    (x + y).Unsigned := by
  change (x.add y).Unsigned
  cases x with
  | nan => trivial
  | infinite a =>
    cases y with
    | nan => trivial
    | infinite b =>
      rw [add]
      split
      · exact first
      · trivial
    | finite => exact first
  | finite a m =>
    cases y with
    | nan => trivial
    | infinite b => exact second
    | finite b n =>
      cases first
      cases second
      have sum : ¬ signedUnits false m + signedUnits false n < 0 := by
        simp [signedUnits]
        omega
      rw [add]
      split
      · rfl
      · rw [decide_eq_false sum]
        exact unsigned_ofUnits _

theorem unsigned_div {x y : Binary64} (first : x.Unsigned) (second : y.Unsigned) :
    (x / y).Unsigned := by
  change (x.div y).Unsigned
  cases x with
  | nan => trivial
  | infinite a =>
    cases y with
    | nan => trivial
    | infinite b => trivial
    | finite b n =>
      cases first
      cases second
      rfl
  | finite a m =>
    cases y with
    | nan => trivial
    | infinite b =>
      cases first
      cases second
      rfl
    | finite b n =>
      cases first
      cases second
      rw [div]
      split
      · split
        · trivial
        · rfl
      · exact unsigned_ofUnits _

/-! ## Numbers no less than zero -/

/-- A number that is no less than zero; both zeros are. -/
def AtLeastZero (x : Binary64) : Prop := x ≠ .nan ∧ x.isBelowZero = false

theorem atLeastZero_of_isFinite {x : Binary64} (finite : x.isFinite = true)
    (above : x.isBelowZero = false) : x.AtLeastZero := by
  refine ⟨?_, above⟩
  rintro rfl
  cases finite

/-- Only infinity is no less than zero and not finite. -/
theorem AtLeastZero.isFinite_iff {x : Binary64} (above : x.AtLeastZero) :
    x.isFinite = true ↔ x ≠ .infinite false := by
  obtain ⟨number, above⟩ := above
  cases x with
  | nan => exact absurd rfl number
  | infinite negative =>
    cases above
    simp [isFinite]
  | finite => simp [isFinite]

private theorem atLeastZero_ofUnits (units : Nat) : (ofUnits false units).AtLeastZero := by
  refine ⟨?_, (unsigned_ofUnits units).not_below⟩
  unfold ofUnits
  split <;> nofun

theorem signedUnits_nonneg {negative : Bool} {units : Nat} {h : Representable units}
    (above : (finite negative units h).isBelowZero = false) : 0 ≤ signedUnits negative units := by
  cases negative with
  | false => simp [signedUnits]
  | true =>
    have none : units = 0 := by simpa [isBelowZero] using above
    simp [signedUnits, none]

theorem atLeastZero_add {x y : Binary64} (first : x.AtLeastZero) (second : y.AtLeastZero) :
    (x + y).AtLeastZero := by
  change (x.add y).AtLeastZero
  cases x with
  | nan => exact absurd rfl first.1
  | infinite a =>
    obtain rfl : a = false := first.2
    cases y with
    | nan => exact absurd rfl second.1
    | infinite b =>
      obtain rfl : b = false := second.2
      exact first
    | finite => exact first
  | finite a m =>
    cases y with
    | nan => exact absurd rfl second.1
    | infinite b => exact second
    | finite b n =>
      have left := signedUnits_nonneg first.2
      have right := signedUnits_nonneg second.2
      rw [add]
      split
      · exact ⟨nofun, by simp [zero, isBelowZero]⟩
      · have sum : ¬ signedUnits a m + signedUnits b n < 0 := by omega
        rw [decide_eq_false sum]
        exact atLeastZero_ofUnits _

/-- Numbers that are no less than zero have such a sum. -/
theorem atLeastZero_sum {numbers : List Binary64} (above : ∀ x ∈ numbers, x.AtLeastZero) :
    (sum numbers).AtLeastZero := by
  have start : (zero true).AtLeastZero := ⟨nofun, rfl⟩
  rw [sum]
  generalize zero true = total at start
  induction numbers generalizing total with
  | nil => exact start
  | cons x others ih =>
    obtain ⟨single, more⟩ := List.forall_mem_cons.mp above
    exact ih more _ (atLeastZero_add start single)

end Binary64

/-- The seconds of a duration are not below zero. -/
theorem Duration.isBelowZero_seconds (d : Duration) : d.seconds.isBelowZero = false :=
  (Binary64.unsigned_add (Binary64.unsigned_ofNat _)
    (Binary64.unsigned_div (Binary64.unsigned_ofNat _) (Binary64.unsigned_ofNat _))).not_below

end TermTape

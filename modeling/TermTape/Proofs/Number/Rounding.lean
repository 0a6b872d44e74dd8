import Mathlib.Tactic.Ring
import TermTape.Number.Binary64

/-!
# Rounding

Rounding a quotient gives the whole number that is no farther than a half from it
(`divNearest_bounds`), and no other whole number is nearer than that (`divNearest_eq`). Rounding to
53 significant bits does the same on the grid of the quotient's leading bit (`nearestUnits_bounds`);
what it gives has no more bits than that (`granular_nearestUnits`), and a count that has no more is
left as it is (`nearestUnits_exact`).
-/
namespace TermTape

/-! ## Whole numbers -/

/-- The rounded quotient is no farther than a half from the quotient. -/
theorem divNearest_bounds (num : Nat) {den : Nat} (positive : 0 < den) :
    2 * (divNearest num den * den) ≤ 2 * num + den ∧
      2 * num ≤ 2 * (divNearest num den * den) + den := by
  have parts : num / den * den + num % den = num := Nat.div_add_mod' num den
  have below : num % den < den := Nat.mod_lt num positive
  unfold divNearest
  dsimp only
  split
  · rw [Nat.add_one_mul (num / den)]
    omega
  · omega

theorem divNearest_zero (den : Nat) : divNearest 0 den = 0 := by
  simp [divNearest]

/-- A whole number nearer than a half to the quotient is the rounded quotient. -/
theorem divNearest_eq {num den whole : Nat} (high : 2 * num < 2 * (whole * den) + den)
    (low : 2 * (whole * den) < 2 * num + den) : divNearest num den = whole := by
  have positive : 0 < den := by
    by_contra none
    have zero : den = 0 := by omega
    subst zero
    omega
  obtain ⟨above, below⟩ := divNearest_bounds num positive
  have lt : divNearest num den * den < (whole + 1) * den := by rw [Nat.add_one_mul]; omega
  have gt : whole * den < (divNearest num den + 1) * den := by rw [Nat.add_one_mul]; omega
  have lt := Nat.lt_of_mul_lt_mul_right lt
  have gt := Nat.lt_of_mul_lt_mul_right gt
  omega

/-- A whole quotient is left as it is. -/
theorem divNearest_mul (whole : Nat) {den : Nat} (positive : 0 < den) :
    divNearest (whole * den) den = whole :=
  divNearest_eq (by omega) (by omega)

/-! ## Counts of 53 significant bits -/

/-- A count with no more than 53 significant bits. -/
def Granular (units : Nat) : Prop := 2 ^ (units.log2 - 52) ∣ units

theorem granular_of_representable {units : Nat} (h : Representable units) : Granular units := h.1

/-- The grid on which a quotient is rounded. -/
def grid (num den : Nat) : Nat := 2 ^ ((num / den).log2 - 52)

theorem grid_pos (num den : Nat) : 0 < grid num den := Nat.two_pow_pos _

theorem nearestUnits_def (num den : Nat) :
    nearestUnits num den = divNearest num (den * grid num den) * grid num den := rfl

/-- The rounded count is no farther than half a step of the grid from the quotient. -/
theorem nearestUnits_bounds (num : Nat) {den : Nat} (positive : 0 < den) :
    2 * (nearestUnits num den * den) ≤ 2 * num + den * grid num den ∧
      2 * num ≤ 2 * (nearestUnits num den * den) + den * grid num den := by
  have bounds := divNearest_bounds num (Nat.mul_pos positive (grid_pos num den))
  have moved : nearestUnits num den * den =
      divNearest num (den * grid num den) * (den * grid num den) := by
    rw [nearestUnits_def]
    ring
  rw [moved]
  exact bounds

/-- A multiple of a power of two by 53 bits has no more than 53 significant bits. -/
theorem granular_mul_two_pow {significand : Nat} (small : significand ≤ 2 ^ 53) (places : Nat) :
    Granular (significand * 2 ^ places) := by
  unfold Granular
  rcases Nat.lt_or_eq_of_le small with less | full
  · -- The leading bit is below the place of 2^(53 + places), so the step divides 2^places.
    refine Nat.dvd_trans (Nat.pow_dvd_pow 2 ?_) (Nat.dvd_mul_left _ _)
    by_cases zero : significand * 2 ^ places = 0
    · simp [zero]
    have bound : significand * 2 ^ places < 2 ^ (53 + places) := by
      rw [Nat.pow_add]
      exact Nat.mul_lt_mul_of_pos_right less (Nat.two_pow_pos _)
    have := (Nat.log2_lt zero).mpr bound
    omega
  · rw [full, ← Nat.pow_add, Nat.log2_two_pow]
    exact Nat.pow_dvd_pow 2 (by omega)

theorem granular_two_pow (places : Nat) : Granular (2 ^ places) := by
  have small : 1 ≤ 2 ^ 53 := by decide
  have whole := granular_mul_two_pow small places
  rwa [Nat.one_mul] at whole

/-- The significand of a rounded count has 53 bits, or is the next power of two. -/
theorem significand_le (num : Nat) {den : Nat} (positive : 0 < den) :
    divNearest num (den * grid num den) ≤ 2 ^ 53 := by
  have step := grid_pos num den
  have quotient : num / den < grid num den * 2 ^ 53 := by
    unfold grid
    rw [← Nat.pow_add]
    exact Nat.lt_of_lt_of_le Nat.lt_log2_self (Nat.pow_le_pow_right (by decide) (by omega))
  have bound : num < grid num den * 2 ^ 53 * den := (Nat.div_lt_iff_lt_mul positive).mp quotient
  obtain ⟨above, -⟩ := divNearest_bounds num (Nat.mul_pos positive step)
  have less : divNearest num (den * grid num den) * (den * grid num den) <
      (2 ^ 53 + 1) * (den * grid num den) := by
    have : grid num den * 2 ^ 53 * den = 2 ^ 53 * (den * grid num den) := by ring
    rw [Nat.add_one_mul]
    omega
  exact Nat.lt_succ_iff.mp (Nat.lt_of_mul_lt_mul_right less)

theorem granular_nearestUnits (num : Nat) {den : Nat} (positive : 0 < den) :
    Granular (nearestUnits num den) :=
  granular_mul_two_pow (significand_le num positive) _

/-- Rounding carries a count past the next power of two at most. -/
theorem log2_nearestUnits_le (num : Nat) {den : Nat} (positive : 0 < den) :
    (nearestUnits num den).log2 ≤ 53 + ((num / den).log2 - 52) := by
  by_cases zero : nearestUnits num den = 0
  · simp [zero]
  have bound : nearestUnits num den ≤ 2 ^ (53 + ((num / den).log2 - 52)) := by
    rw [nearestUnits_def, Nat.pow_add]
    exact Nat.mul_le_mul_right _ (significand_le num positive)
  have less : nearestUnits num den < 2 ^ (53 + ((num / den).log2 - 52) + 1) :=
    Nat.lt_of_le_of_lt bound (Nat.pow_lt_pow_right (by decide) (by omega))
  have := (Nat.log2_lt zero).mpr less
  omega

/-- A count that 53 bits hold is left as it is. -/
theorem nearestUnits_exact {units den : Nat} (granular : Granular units) (positive : 0 < den) :
    nearestUnits (units * den) den = units := by
  have same : grid (units * den) den = 2 ^ (units.log2 - 52) := by
    rw [grid, Nat.mul_div_cancel _ positive]
  obtain ⟨significand, split⟩ := granular
  rw [nearestUnits_def, same]
  have moved : units * den = significand * (den * 2 ^ (units.log2 - 52)) := by
    conv_lhs => rw [split]
    ring
  rw [moved, divNearest_mul _ (Nat.mul_pos positive (Nat.two_pow_pos _))]
  conv_rhs => rw [split]
  ring

/-! ## Shortened quotients -/

private theorem divNearest_mul_right (num den : Nat) {k : Nat} (positive : 0 < k) :
    divNearest (num * k) (den * k) = divNearest num den := by
  have less : den * k < 2 * (num % den * k) ↔ den < 2 * (num % den) := by
    rw [← Nat.mul_assoc, Nat.mul_lt_mul_right positive]
  have same : 2 * (num % den * k) = den * k ↔ 2 * (num % den) = den := by
    rw [← Nat.mul_assoc, Nat.mul_left_inj positive.ne']
  unfold divNearest
  simp only [Nat.mul_div_mul_right num den positive, Nat.mul_mod_mul_right, less, same]

/-- A quotient may be shortened before it is rounded. -/
theorem nearestUnits_mul_right (num den : Nat) {k : Nat} (positive : 0 < k) :
    nearestUnits (num * k) (den * k) = nearestUnits num den := by
  have same : grid (num * k) (den * k) = grid num den := by
    rw [grid, Nat.mul_div_mul_right num den positive, grid]
  rw [nearestUnits_def, nearestUnits_def, same, Nat.mul_right_comm, divNearest_mul_right _ _ positive]

end TermTape

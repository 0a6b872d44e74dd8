import Mathlib.Tactic.Ring
import TermTape.Number.Layout
import TermTape.Number.Reading
import TermTape.Proofs.Number.Rounding

/-!
# Numbers with six places

A number that is written with six places and read again keeps its text from then on
(`millionths_reread`). Below `2^33` the numbers lie closer together than the places, so the number
that is read is nearer than half a millionth to its text. From there on they lie farther apart, and
the number that is read is the one that was written.
-/
namespace TermTape

/-- The places of the numbers of a document, as a power of ten. -/
def million : Nat := Nat.pow 10 6

/-- The units of one. -/
def oneUnits : Nat := Nat.pow 2 unitPlaces

/-- The millionths nearest to a count of units. -/
def millionths (units : Nat) : Nat := divNearest (units * million) oneUnits

/-- The count of units nearest to some millionths. -/
def unitsOf (parts : Nat) : Nat := nearestUnits (parts * oneUnits) million

/-- The count of units that is read from the six places of a count. -/
def reread (units : Nat) : Nat := unitsOf (millionths units)

theorem million_eq : million = 1000000 := rfl

theorem oneUnits_def : Nat.pow 2 unitPlaces = oneUnits := by
  unfold oneUnits
  with_reducible rfl

theorem oneUnits_eq : oneUnits = 2 ^ unitPlaces := by
  unfold oneUnits
  generalize unitPlaces = places
  rfl

theorem oneUnits_pos : 0 < oneUnits := by
  rw [oneUnits_eq]
  exact Nat.two_pow_pos unitPlaces

/-- A million steps of a fine grid are less than one. -/
theorem million_mul_lt {places : Nat} (fine : places + 20 ≤ unitPlaces) :
    million * 2 ^ places < oneUnits := by
  have split : (2 : Nat) ^ (places + 20) = 2 ^ places * 1048576 := by rw [Nat.pow_add]
  have bound : (2 : Nat) ^ (places + 20) ≤ 2 ^ unitPlaces :=
    Nat.pow_le_pow_right (by decide) fine
  have := Nat.two_pow_pos places
  rw [million_eq, oneUnits_eq]
  omega

/-- A million steps of a coarse grid are more than one. -/
theorem lt_million_mul {places : Nat} (coarse : unitPlaces ≤ places + 19) :
    oneUnits < million * 2 ^ places := by
  have split : (2 : Nat) ^ (places + 19) = 2 ^ places * 524288 := by rw [Nat.pow_add]
  have bound : 2 ^ unitPlaces ≤ (2 : Nat) ^ (places + 19) :=
    Nat.pow_le_pow_right (by decide) coarse
  have := Nat.two_pow_pos places
  rw [million_eq, oneUnits_eq]
  omega

/-- The millionths of a count fix it up to half a millionth. -/
theorem millionths_bounds (units : Nat) :
    2 * (millionths units * oneUnits) ≤ 2 * (units * million) + oneUnits ∧
      2 * (units * million) ≤ 2 * (millionths units * oneUnits) + oneUnits :=
  divNearest_bounds _ oneUnits_pos

/-- The exponent of the leading bit of some millionths. -/
def lead (parts : Nat) : Nat := (parts * oneUnits / million).log2

private theorem grid_parts (parts : Nat) :
    grid (parts * oneUnits) million = 2 ^ (lead parts - 52) := rfl

theorem unitsOf_bounds (parts : Nat) :
    2 * (unitsOf parts * million) ≤ 2 * (parts * oneUnits) + million * 2 ^ (lead parts - 52) ∧
      2 * (parts * oneUnits) ≤ 2 * (unitsOf parts * million) + million * 2 ^ (lead parts - 52) :=
  nearestUnits_bounds _ (by decide)

/-- Where the grid is finer than the places, what is read is nearest to the same millionths. -/
theorem millionths_unitsOf_fine {parts : Nat} (fine : lead parts < unitPlaces + 33) :
    millionths (unitsOf parts) = parts := by
  have steps : million * 2 ^ (lead parts - 52) < oneUnits :=
    million_mul_lt (by unfold unitPlaces at *; omega)
  obtain ⟨above, below⟩ := unitsOf_bounds parts
  exact divNearest_eq (by omega) (by omega)

/-- Millionths of a count of 53 bits do not have a greater leading bit, where the grid is coarser
than the places. -/
theorem two_pow_lead_le {units : Nat} (granular : Granular units)
    (coarse : unitPlaces + 33 ≤ lead (millionths units)) : 2 ^ lead (millionths units) ≤ units := by
  by_contra less
  obtain ⟨above, -⟩ := millionths_bounds units
  have nonzero : millionths units * oneUnits / million ≠ 0 := by
    intro zero
    rw [lead, zero] at coarse
    simp [unitPlaces] at coarse
  have leads : 2 ^ lead (millionths units) * million ≤ millionths units * oneUnits :=
    (Nat.le_div_iff_mul_le (by decide)).mp (Nat.log2_self_le nonzero)
  generalize lead (millionths units) = k at coarse less leads
  -- The count is less than a fine step below the power, yet both are multiples of that step.
  have gap : (2 ^ k - units) * 2 ^ 20 < oneUnits := by
    have : (2 ^ k - units) * million = 2 ^ k * million - units * million := Nat.sub_mul ..
    rw [million_eq] at *
    omega
  have split : oneUnits = 2 ^ (unitPlaces - 20) * 2 ^ 20 := by
    rw [oneUnits_eq, ← Nat.pow_add, Nat.sub_add_cancel (by decide)]
  have near : 2 ^ k - units < 2 ^ (unitPlaces - 20) := by
    rw [split] at gap
    exact Nat.lt_of_mul_lt_mul_right gap
  obtain ⟨j, rfl⟩ : ∃ j, k = j + 1 := ⟨k - 1, by omega⟩
  have double : 2 ^ (j + 1) = 2 ^ j * 2 := Nat.pow_succ ..
  have small : 2 ^ (unitPlaces - 20) ≤ 2 ^ j := Nat.pow_le_pow_right (by decide) (by omega)
  have leading : units.log2 = j := by
    have positive := Nat.two_pow_pos j
    exact (Nat.log2_eq_iff (by omega)).mpr ⟨by omega, by omega⟩
  have divides : 2 ^ (unitPlaces - 20) ∣ 2 ^ (j + 1) - units := by
    refine Nat.dvd_sub (Nat.pow_dvd_pow 2 (by omega)) (Nat.dvd_trans (Nat.pow_dvd_pow 2 ?_) granular)
    omega
  have := Nat.le_of_dvd (by omega) divides
  omega

/-- Where the grid is coarser than the places, what is read is what was written. -/
theorem reread_coarse {units : Nat} (granular : Granular units)
    (coarse : unitPlaces + 33 ≤ lead (millionths units)) : reread units = units := by
  have nonzero : units ≠ 0 := by
    have := two_pow_lead_le granular coarse
    have := Nat.two_pow_pos (lead (millionths units))
    omega
  have leads : lead (millionths units) ≤ units.log2 :=
    (Nat.le_log2 nonzero).mpr (two_pow_lead_le granular coarse)
  have steps : oneUnits < million * 2 ^ (lead (millionths units) - 52) :=
    lt_million_mul (by omega)
  obtain ⟨significand, split⟩ : 2 ^ (lead (millionths units) - 52) ∣ units :=
    Nat.dvd_trans (Nat.pow_dvd_pow 2 (by omega)) granular
  obtain ⟨above, below⟩ := millionths_bounds units
  have moved : significand * (million * 2 ^ (lead (millionths units) - 52)) = units * million := by
    conv_rhs => rw [split]
    ring
  have nearest : divNearest (millionths units * oneUnits)
      (million * 2 ^ (lead (millionths units) - 52)) = significand :=
    divNearest_eq (by omega) (by omega)
  rw [reread, unitsOf, nearestUnits_def, grid_parts, nearest]
  conv_rhs => rw [split]
  ring

/-- The text with six places of a number that was read from one is that text. -/
theorem millionths_reread {units : Nat} (granular : Granular units) :
    millionths (reread units) = millionths units := by
  by_cases fine : lead (millionths units) < unitPlaces + 33
  · exact millionths_unitsOf_fine fine
  · rw [reread_coarse granular (by omega)]

/-- A count that is finite is read as a finite one. -/
theorem representable_reread {units : Nat} (representable : Representable units) :
    Representable (reread units) := by
  have granular := granular_of_representable representable
  by_cases fine : lead (millionths units) < unitPlaces + 33
  · refine ⟨granular_nearestUnits _ (by decide), ?_⟩
    have positive : 0 < million := by decide
    have := log2_nearestUnits_le (millionths units * oneUnits) positive
    change (nearestUnits (millionths units * oneUnits) million).log2 < _
    unfold lead at fine
    omega
  · rw [reread_coarse granular (by omega)]
    exact representable

end TermTape

import TermTape.Proofs.Number.Order

/-!
# Seconds of durations

The seconds of a duration are the sum of two roundings, and rounded themselves (`seconds_eq`). They
keep the order of durations (`secondsUnits_mono`) and are no more than four times too many
(`secondsUnits_mul_le`). So durations that together are no longer than the longest one have seconds
that add up to a number, however many they are (`sum_seconds`).
-/
namespace TermTape.Duration

/-! ## Units -/

/-- The units of a whole number of seconds, in 53 bits. -/
def wholeUnits (seconds : Nat) : Nat := nearestUnits (seconds * oneUnits) 1

/-- The units of a part of a second. -/
def partUnits (nanoseconds : Nat) : Nat :=
  nearestUnits (nanoseconds * oneUnits * oneUnits) (perSecond * oneUnits)

/-- The units of the seconds of a duration. -/
def secondsUnits (d : Duration) : Nat :=
  nearestUnits (wholeUnits (d.nanoseconds / perSecond) + partUnits (d.nanoseconds % perSecond)) 1

private theorem granular_wholeUnits (seconds : Nat) : Granular (wholeUnits seconds) :=
  granular_nearestUnits _ Nat.one_pos

private theorem perSecond_units_pos :
    0 < perSecond * oneUnits := Nat.mul_pos (by decide) oneUnits_pos

private theorem granular_partUnits (nanoseconds : Nat) : Granular (partUnits nanoseconds) :=
  granular_nearestUnits _ perSecond_units_pos

/-- Whole numbers of up to 53 bits are exact. -/
theorem wholeUnits_exact {seconds : Nat} (small : seconds ≤ 2 ^ 53) :
    wholeUnits seconds = seconds * oneUnits := by
  have exact := nearestUnits_exact (granular_whole small) Nat.one_pos
  rwa [Nat.mul_one] at exact

private theorem wholeUnits_mono {seconds seconds' : Nat} (le : seconds ≤ seconds') :
    wholeUnits seconds ≤ wholeUnits seconds' :=
  nearestUnits_mono Nat.one_pos (Nat.mul_le_mul_right _ le)

private theorem partUnits_mono {part part' : Nat} (le : part ≤ part') :
    partUnits part ≤ partUnits part' :=
  nearestUnits_mono perSecond_units_pos (Nat.mul_le_mul_right _ (Nat.mul_le_mul_right _ le))

/-- A part of a second is less than one, also when it is rounded. -/
theorem partUnits_lt {part : Nat} (small : part < perSecond) : partUnits part < oneUnits :=
  calc partUnits part ≤ partUnits (perSecond - 1) := partUnits_mono (by omega)
    _ < oneUnits := by decide +kernel

/-- A whole number of up to 53 bits by a power of two is a number. -/
theorem ofNat_eq_finite {whole significand places : Nat} (split : whole = significand * 2 ^ places)
    (small : significand ≤ 2 ^ 53) (short : places ≤ 64) :
    ∃ representable, Binary64.ofNat whole = .finite false (whole * oneUnits) representable := by
  have fits : Representable (whole * oneUnits) := by
    rw [oneUnits_eq, Representable, split, Nat.mul_assoc, ← Nat.pow_add]
    generalize unitPlaces = unit
    refine ⟨granular_mul_two_pow small (places + unit), ?_⟩
    calc (significand * 2 ^ (places + unit)).log2
        ≤ (2 ^ (53 + (64 + unit))).log2 := log2_le_log2 (by
          rw [Nat.pow_add 2 53]
          exact Nat.mul_le_mul small (Nat.pow_le_pow_right Nat.two_pos (by omega)))
      _ = 53 + (64 + unit) := Nat.log2_two_pow
      _ < 1024 + unit := by omega
  exact ⟨fits, by rw [Binary64.ofNat_exact fits.1, Binary64.ofUnits_of_representable fits]⟩

theorem seconds_eq (d : Duration) :
    d.seconds = Binary64.ofUnits false (secondsUnits d) := by
  have small : d.nanoseconds % perSecond < perSecond := Nat.mod_lt _ (by decide)
  have bound : perSecond ≤ 2 ^ 53 := by decide
  obtain ⟨first, part⟩ := ofNat_eq_finite (Nat.mul_one (d.nanoseconds % perSecond)).symm
    (by omega : _ ≤ 2 ^ 53) (Nat.zero_le 64)
  obtain ⟨second, whole⟩ := ofNat_eq_finite (Nat.mul_one perSecond).symm bound (Nat.zero_le 64)
  have quotient : Binary64.ofNat (d.nanoseconds % perSecond) / Binary64.ofNat perSecond =
      Binary64.ofUnits false (partUnits (d.nanoseconds % perSecond)) := by
    rw [part, whole, Binary64.finite_div first second perSecond_units_pos]
    rfl
  rw [seconds, quotient, Binary64.ofNat_eq]
  exact Binary64.ofUnits_add (granular_wholeUnits _) (granular_partUnits _)

/-- Past 53 bits of seconds a part of a second is lost. -/
theorem nearestUnits_add_of_lt {units part : Nat} (granular : Granular units)
    (many : 2 ^ 53 * oneUnits ≤ units) (less : part < oneUnits) :
    nearestUnits (units + part) 1 = units := by
  have nonzero : units ≠ 0 := by
    have := oneUnits_pos
    omega
  have coarse : 52 ≤ units.log2 ∧ 2 * oneUnits ≤ 2 ^ (units.log2 - 52) := by
    rw [oneUnits_eq] at many ⊢
    generalize unitPlaces = unit at many ⊢
    have lead : 53 + unit ≤ units.log2 := by
      rw [← Nat.pow_add] at many
      exact (Nat.le_log2 nonzero).mpr many
    rw [← Nat.pow_succ']
    exact ⟨by omega, Nat.pow_le_pow_right (by decide) (by omega)⟩
  obtain ⟨deep, two⟩ := coarse
  -- The next power of two is a step of the grid away or more, so the part does not reach it.
  have room := add_step_le granular (units.log2 + 1) (by omega) Nat.lt_log2_self
  rw [Nat.add_sub_add_right _ 1 52] at room
  have log : ((units + part) / 1).log2 = units.log2 := by
    rw [Nat.div_one]
    have := Nat.log2_self_le nonzero
    exact (Nat.log2_eq_iff (by omega)).mpr ⟨by omega, by omega⟩
  obtain ⟨significand, split⟩ := granular
  rw [nearestUnits_def, grid, log, Nat.one_mul]
  generalize 2 ^ (units.log2 - 52) = step at *
  have moved : significand * step = units := by rw [Nat.mul_comm, ← split]
  have nearest : divNearest (units + part) step = significand := divNearest_eq (by omega) (by omega)
  rw [nearest, moved]

private theorem le_secondsUnits (d : Duration) :
    wholeUnits (d.nanoseconds / perSecond) ≤ secondsUnits d :=
  calc wholeUnits (d.nanoseconds / perSecond)
      = nearestUnits (wholeUnits (d.nanoseconds / perSecond) * 1) 1 :=
        (nearestUnits_exact (granular_wholeUnits _) Nat.one_pos).symm
    _ ≤ secondsUnits d := nearestUnits_mono Nat.one_pos (by omega)

/-- The seconds of a duration are no more than the next whole number of them. -/
theorem secondsUnits_le (d : Duration) :
    secondsUnits d ≤ wholeUnits (d.nanoseconds / perSecond + 1) := by
  have less : partUnits (d.nanoseconds % perSecond) < oneUnits :=
    partUnits_lt (Nat.mod_lt _ (by decide))
  unfold secondsUnits
  generalize d.nanoseconds / perSecond = whole
  by_cases small : whole ≤ 2 ^ 53
  · rw [wholeUnits_exact small]
    refine nearestUnits_mono Nat.one_pos ?_
    rw [Nat.add_one_mul]
    omega
  · -- From `2^53` seconds on the numbers lie two seconds apart or more.
    have many : 2 ^ 53 * oneUnits ≤ wholeUnits whole :=
      calc 2 ^ 53 * oneUnits = wholeUnits (2 ^ 53) := (wholeUnits_exact (Nat.le_refl _)).symm
        _ ≤ wholeUnits whole := wholeUnits_mono (by omega)
    rw [nearestUnits_add_of_lt (granular_wholeUnits whole) many less]
    exact wholeUnits_mono (by omega)

theorem granular_secondsUnits (d : Duration) : Granular (secondsUnits d) :=
  granular_nearestUnits _ Nat.one_pos

/-- A longer duration has no fewer seconds, also when they are rounded. -/
theorem secondsUnits_mono {d d' : Duration} (le : d ≤ d') : secondsUnits d ≤ secondsUnits d' := by
  have le : d.nanoseconds ≤ d'.nanoseconds := le
  have wholes : d.nanoseconds / perSecond ≤ d'.nanoseconds / perSecond := Nat.div_le_div_right le
  rcases Nat.lt_or_eq_of_le wholes with less | same
  · calc secondsUnits d ≤ wholeUnits (d.nanoseconds / perSecond + 1) := secondsUnits_le d
      _ ≤ wholeUnits (d'.nanoseconds / perSecond) := wholeUnits_mono less
      _ ≤ secondsUnits d' := le_secondsUnits d'
  · have parts : d.nanoseconds % perSecond ≤ d'.nanoseconds % perSecond := by
      have := Nat.div_add_mod d.nanoseconds perSecond
      have := Nat.div_add_mod d'.nanoseconds perSecond
      rw [same] at *
      omega
    rw [secondsUnits, secondsUnits, same]
    exact nearestUnits_mono Nat.one_pos (Nat.add_le_add_left (partUnits_mono parts) _)

/-! ## Sums -/

private theorem partUnits_mul_le (part : Nat) :
    partUnits part * perSecond ≤ 2 * (part * oneUnits) := by
  have bound := nearestUnits_mul_le (part * oneUnits * oneUnits) (perSecond * oneUnits)
  rw [← Nat.mul_assoc, ← Nat.mul_assoc] at bound
  exact Nat.le_of_mul_le_mul_right bound oneUnits_pos

/-- Each of the roundings no more than doubles what it rounds. -/
theorem secondsUnits_mul_le (d : Duration) :
    secondsUnits d * perSecond ≤ 4 * (d.nanoseconds * oneUnits) := by
  have parts := Nat.div_add_mod' d.nanoseconds perSecond
  have rounded := nearestUnits_mul_le
    (wholeUnits (d.nanoseconds / perSecond) + partUnits (d.nanoseconds % perSecond)) 1
  have whole := nearestUnits_mul_le (d.nanoseconds / perSecond * oneUnits) 1
  have part := partUnits_mul_le (d.nanoseconds % perSecond)
  rw [Nat.mul_one] at rounded whole
  calc secondsUnits d * perSecond
      ≤ 2 * (wholeUnits (d.nanoseconds / perSecond) + partUnits (d.nanoseconds % perSecond)) *
          perSecond := Nat.mul_le_mul_right _ rounded
    _ = 2 * (wholeUnits (d.nanoseconds / perSecond) * perSecond +
          partUnits (d.nanoseconds % perSecond) * perSecond) := by ring
    _ ≤ 2 * (2 * (d.nanoseconds / perSecond * oneUnits) * perSecond +
          2 * (d.nanoseconds % perSecond * oneUnits)) :=
        Nat.mul_le_mul_left 2 (Nat.add_le_add (Nat.mul_le_mul_right _ whole) part)
    _ = 4 * ((d.nanoseconds / perSecond * perSecond + d.nanoseconds % perSecond) * oneUnits) := by
        ring
    _ = 4 * (d.nanoseconds * oneUnits) := by rw [parts]

private theorem sum_secondsUnits_mul_le (durations : List Duration) :
    (durations.map secondsUnits).sum * perSecond ≤
      4 * ((durations.map nanoseconds).sum * oneUnits) := by
  induction durations with
  | nil => simp only [List.map_nil, List.sum_nil, Nat.zero_mul, Nat.zero_le]
  | cons d others ih =>
    have first := secondsUnits_mul_le d
    simp only [List.map_cons, List.sum_cons, Nat.add_mul, Nat.mul_add]
    exact Nat.add_le_add first ih

/-- Durations that together are no longer than the longest one have seconds that add up to a
number. -/
theorem sum_seconds {durations : List Duration}
    (within : (durations.map nanoseconds).sum ≤ longest.nanoseconds) :
    (Binary64.sum (durations.map seconds)).isFinite = true ∧
      (Binary64.sum (durations.map seconds)).magnitude ≤ 2 ^ (67 + unitPlaces) := by
  have units : durations.map seconds = (durations.map secondsUnits).map (Binary64.ofUnits false) := by
    rw [List.map_map]
    refine List.map_congr_left fun d _ => ?_
    rw [seconds_eq, Function.comp_apply]
  have granular : ∀ units ∈ durations.map secondsUnits, Granular units := by
    rw [List.forall_mem_map]
    exact fun d _ => granular_secondsUnits d
  have few : (durations.map secondsUnits).sum * perSecond ≤ 2 ^ 66 * oneUnits * perSecond :=
    calc (durations.map secondsUnits).sum * perSecond
        ≤ 4 * ((durations.map nanoseconds).sum * oneUnits) := sum_secondsUnits_mul_le durations
      _ ≤ 4 * (2 ^ 64 * perSecond * oneUnits) :=
          Nat.mul_le_mul_left 4 (Nat.mul_le_mul_right _ (Nat.le_trans within (Nat.sub_le ..)))
      _ = 2 ^ 66 * oneUnits * perSecond := by ring
  have bound := Nat.le_of_mul_le_mul_right few (by decide)
  have double : 2 ^ (67 + unitPlaces) = 2 * (2 ^ 66 * oneUnits) := by
    rw [two_pow_add_unitPlaces]
    ring
  rw [units]
  refine Binary64.sum_ofUnits (67 + unitPlaces) granular ?_ (by omega)
  rw [double]
  exact Nat.mul_le_mul_left 2 bound

end TermTape.Duration

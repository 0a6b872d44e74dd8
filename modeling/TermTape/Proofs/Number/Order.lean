import TermTape.Proofs.Number.Signs
import TermTape.Proofs.Number.SixPlaces

/-!
# Order of numbers

The finite numbers are ordered by their signed units, and the infinities lie around them. Rounding
keeps this order: of two quotients by one divisor the greater one is rounded to no less
(`divNearest_mono`, `nearestUnits_mono`). So do the operations on numbers without a sign that are
made of it, sums (`ofUnits_add`) and quotients by a positive number (`ofUnits_div_le_div`), where a
result past the greatest number is infinite. A sum that is rounded at each step is no more than twice
the exact one (`sum_ofUnits`).
-/
namespace TermTape

/-! ## Rounding -/

/-- Rounding to whole numbers keeps the order. -/
theorem divNearest_mono {num num' : Nat} (den : Nat) (le : num ≤ num') :
    divNearest num den ≤ divNearest num' den := by
  have quotients : num / den ≤ num' / den := Nat.div_le_div_right le
  have parts := Nat.div_add_mod num den
  have parts' := Nat.div_add_mod num' den
  unfold divNearest
  dsimp only
  rcases Nat.lt_or_eq_of_le quotients with less | same
  · split <;> split <;> omega
  · -- With equal quotients the remainders are in order, and so are the two ways to round.
    rw [same] at parts ⊢
    split <;> split <;> omega

/-- A quotient of no less than a multiple of the divisor is rounded to no less than the factor. -/
theorem le_divNearest {num den whole : Nat} (positive : 0 < den) (le : whole * den ≤ num) :
    whole ≤ divNearest num den :=
  calc whole = divNearest (whole * den) den := (divNearest_mul whole positive).symm
    _ ≤ divNearest num den := divNearest_mono den le

theorem log2_le_log2 {units units' : Nat} (le : units ≤ units') : units.log2 ≤ units'.log2 := by
  by_cases none : units = 0
  · simp [none]
  · exact (Nat.le_log2 (by omega)).mpr (Nat.le_trans (Nat.log2_self_le none) le)

theorem nearestUnits_zero (den : Nat) : nearestUnits 0 den = 0 := by
  rw [nearestUnits_def, divNearest_zero, Nat.zero_mul]

/-- Where the units are coarser than one, the leading bit is kept. -/
theorem lead_le_nearestUnits {num den : Nat} (positive : 0 < den) (coarse : 52 ≤ (num / den).log2) :
    2 ^ 52 * grid num den ≤ nearestUnits num den := by
  have nonzero : num / den ≠ 0 := by
    intro zero
    simp [zero] at coarse
  have lead : 2 ^ 52 * grid num den = 2 ^ (num / den).log2 := by
    rw [grid, ← Nat.pow_add, Nat.add_sub_cancel' coarse]
  have reached : 2 ^ 52 * (den * grid num den) ≤ num :=
    calc 2 ^ 52 * (den * grid num den) = 2 ^ (num / den).log2 * den := by rw [← lead]; ring
      _ ≤ num := (Nat.le_div_iff_mul_le positive).mp (Nat.log2_self_le nonzero)
  exact Nat.mul_le_mul_right _ (le_divNearest (Nat.mul_pos positive (grid_pos num den)) reached)

/-- Rounding to 53 significant bits keeps the order. -/
theorem nearestUnits_mono {num num' den : Nat} (positive : 0 < den) (le : num ≤ num') :
    nearestUnits num den ≤ nearestUnits num' den := by
  have quotients : num / den ≤ num' / den := Nat.div_le_div_right le
  by_cases same : (num / den).log2 - 52 = (num' / den).log2 - 52
  · have grids : grid num den = grid num' den := by rw [grid, grid, same]
    rw [nearestUnits_def, nearestUnits_def, grids]
    exact Nat.mul_le_mul_right _ (divNearest_mono _ le)
  · -- On a coarser grid the leading bit alone is past all that the finer one rounds to.
    have logs := log2_le_log2 quotients
    calc nearestUnits num den
        ≤ 2 ^ 53 * grid num den := Nat.mul_le_mul_right _ (significand_le num positive)
      _ = 2 ^ 52 * (2 * grid num den) := by ring
      _ ≤ 2 ^ 52 * grid num' den := by
          refine Nat.mul_le_mul_left _ ?_
          rw [grid, grid, ← Nat.pow_succ']
          exact Nat.pow_le_pow_right (by decide) (by omega)
      _ ≤ nearestUnits num' den := lead_le_nearestUnits positive (by omega)

/-- A count of 53 bits is no more than what a greater one is rounded to. -/
theorem le_nearestUnits {part whole : Nat} (granular : Granular part) (le : part ≤ whole) :
    part ≤ nearestUnits whole 1 :=
  calc part = nearestUnits (part * 1) 1 := (nearestUnits_exact granular Nat.one_pos).symm
    _ ≤ nearestUnits whole 1 := nearestUnits_mono Nat.one_pos (by omega)

/-- What is no more than a power of two is not rounded past it. -/
theorem nearestUnits_le_two_pow {num den places : Nat} (positive : 0 < den)
    (le : num ≤ 2 ^ places * den) : nearestUnits num den ≤ 2 ^ places :=
  calc nearestUnits num den ≤ nearestUnits (2 ^ places * den) den := nearestUnits_mono positive le
    _ = 2 ^ places := nearestUnits_exact (granular_two_pow places) positive

theorem representable_of_le_two_pow {units places : Nat} (granular : Granular units)
    (le : units ≤ 2 ^ places) (small : places < 1024 + unitPlaces) : Representable units := by
  refine ⟨granular, Nat.lt_of_le_of_lt (log2_le_log2 le) ?_⟩
  rwa [Nat.log2_two_pow]

/-- The units of a power of two. -/
theorem two_pow_add_unitPlaces (bits : Nat) : 2 ^ (bits + unitPlaces) = 2 ^ bits * oneUnits := by
  rw [oneUnits_eq, Nat.pow_add]

theorem mul_oneUnits_le {n bits : Nat} (small : n ≤ 2 ^ bits) :
    n * oneUnits ≤ 2 ^ (bits + unitPlaces) := by
  rw [two_pow_add_unitPlaces]
  exact Nat.mul_le_mul_right _ small

/-- A whole number is rounded to no more than a power of two that it is no more than. -/
theorem nearestUnits_whole_le {n bits : Nat} (small : n ≤ 2 ^ bits) :
    nearestUnits (n * oneUnits) 1 ≤ 2 ^ (bits + unitPlaces) := by
  refine nearestUnits_le_two_pow Nat.one_pos ?_
  rw [Nat.mul_one]
  exact mul_oneUnits_le small

/-- A count of 53 bits that is below a power of two is a step of the grid there away from it. -/
theorem add_step_le {units : Nat} (granular : Granular units) (k : Nat) (many : 53 ≤ k)
    (below : units < 2 ^ k) : units + 2 ^ (k - 53) ≤ 2 ^ k := by
  have double : 2 ^ k = 2 ^ (k - 1) * 2 := by rw [← Nat.pow_succ]; congr 1; omega
  by_cases half : units < 2 ^ (k - 1)
  · have : 2 ^ (k - 53) ≤ 2 ^ (k - 1) := Nat.pow_le_pow_right Nat.two_pos (by omega)
    omega
  have lead : units.log2 = k - 1 := by
    have := Nat.two_pow_pos (k - 1)
    refine (Nat.log2_eq_iff (by omega)).mpr ⟨by omega, ?_⟩
    rwa [Nat.sub_add_cancel (by omega)]
  obtain ⟨significand, split⟩ := granular
  rw [lead, Nat.sub_sub] at split
  have whole : 2 ^ k = 2 ^ (k - 53) * 2 ^ 53 := by rw [← Nat.pow_add]; congr 1; omega
  have less : significand < 2 ^ 53 := Nat.lt_of_mul_lt_mul_left (split ▸ whole ▸ below)
  calc units + 2 ^ (k - 53) = 2 ^ (k - 53) * (significand + 1) := by rw [Nat.mul_add_one, ← split]
    _ ≤ 2 ^ (k - 53) * 2 ^ 53 := Nat.mul_le_mul_left _ less
    _ = 2 ^ k := whole.symm

/-- A count of 53 bits is no more than the last multiple of the grid up to a greater count. -/
private theorem le_grid_floor {units whole : Nat} (granular : Granular units) (le : units ≤ whole) :
    units ≤ whole / grid whole 1 * grid whole 1 := by
  have step := grid_pos whole 1
  have multiple {k : Nat} (reached : k * grid whole 1 ≤ whole) :
      k * grid whole 1 ≤ whole / grid whole 1 * grid whole 1 :=
    Nat.mul_le_mul_right _ ((Nat.le_div_iff_mul_le step).mpr reached)
  by_cases same : units.log2 - 52 = whole.log2 - 52
  · obtain ⟨significand, split⟩ := granular
    have moved : units = significand * grid whole 1 := by
      rw [grid, Nat.div_one, ← same, Nat.mul_comm, ← split]
    rw [moved] at le ⊢
    exact multiple le
  · -- The leading bit of the greater count is past the lesser one, and a multiple itself.
    have logs := log2_le_log2 le
    have nonzero : whole ≠ 0 := by
      rintro rfl
      simp at logs same
      omega
    have lead : 2 ^ 52 * grid whole 1 = 2 ^ whole.log2 := by
      rw [grid, Nat.div_one, ← Nat.pow_add, Nat.add_sub_cancel' (by omega)]
    have past : units ≤ 2 ^ whole.log2 :=
      Nat.le_of_lt (Nat.lt_of_lt_of_le Nat.lt_log2_self (Nat.pow_le_pow_right (by decide) (by omega)))
    rw [← lead] at past
    exact Nat.le_trans past (multiple (lead ▸ Nat.log2_self_le nonzero))

/-- Adding to a count of 53 bits rounds by no more than what is added: the count itself is as far
from the sum. -/
theorem nearestUnits_add_le {units : Nat} (granular : Granular units) (part : Nat) :
    nearestUnits (units + part) 1 ≤ units + 2 * part := by
  have floor := le_grid_floor granular (Nat.le_add_right units part)
  have parts := Nat.div_add_mod' (units + part) (grid (units + part) 1)
  rw [nearestUnits_def, Nat.one_mul]
  generalize grid (units + part) 1 = step at *
  unfold divNearest
  dsimp only
  split
  · rw [Nat.add_one_mul]
    omega
  · omega

private theorem divNearest_mul_le (num den : Nat) : divNearest num den * den ≤ 2 * num := by
  have parts := Nat.div_add_mod' num den
  unfold divNearest
  dsimp only
  split
  · rw [Nat.add_one_mul]
    omega
  · omega

/-- Rounding no more than doubles a quotient. -/
theorem nearestUnits_mul_le (num den : Nat) : nearestUnits num den * den ≤ 2 * num := by
  have bound := divNearest_mul_le num (den * grid num den)
  rw [nearestUnits_def]
  calc divNearest num (den * grid num den) * grid num den * den
      = divNearest num (den * grid num den) * (den * grid num den) := by ring
    _ ≤ 2 * num := bound

theorem granular_whole {n : Nat} (small : n ≤ 2 ^ 53) : Granular (n * oneUnits) := by
  rw [oneUnits_eq]
  exact granular_mul_two_pow small unitPlaces

namespace Binary64

/-! ## The order -/

/-- The order of the numbers; not-a-number has no place in it, and both zeros have the same. -/
def AtMost : Binary64 → Binary64 → Prop
  | .nan, _ | _, .nan => False
  | .infinite a, .infinite b => a = true ∨ b = false
  | .infinite a, .finite .. => a = true
  | .finite .., .infinite b => b = false
  | .finite a m _, .finite b n _ => signedUnits a m ≤ signedUnits b n

instance : LE Binary64 := ⟨AtMost⟩

instance (x y : Binary64) : Decidable (x ≤ y) :=
  match x, y with
  | .nan, _ => .isFalse (by cases y <;> exact id)
  | .infinite _, .nan | .finite .., .nan => .isFalse id
  | .infinite a, .infinite b => inferInstanceAs (Decidable (a = true ∨ b = false))
  | .infinite a, .finite .. => inferInstanceAs (Decidable (a = true))
  | .finite .., .infinite b => inferInstanceAs (Decidable (b = false))
  | .finite a m _, .finite b n _ =>
    inferInstanceAs (Decidable (signedUnits a m ≤ signedUnits b n))

theorem atLeastZero_iff {x : Binary64} : x.AtLeastZero ↔ zero false ≤ x := by
  cases x with
  | nan => exact ⟨fun above => absurd rfl above.1, False.elim⟩
  | infinite negative => exact ⟨And.right, fun above => ⟨nofun, above⟩⟩
  | finite negative units representable =>
    refine ⟨fun above => signedUnits_nonneg above.2, fun above => ⟨nofun, ?_⟩⟩
    have above : 0 ≤ signedUnits negative units := above
    cases negative with
    | false => rfl
    | true =>
      have none : units = 0 := by
        simp only [signedUnits, ↓reduceIte] at above
        omega
      simp [isBelowZero, none]

/-- The signed units of a number no less than zero are its units. -/
theorem signedUnits_of_not_below {negative : Bool} {units : Nat} {representable}
    (above : (finite negative units representable).isBelowZero = false) :
    signedUnits negative units = units := by
  cases negative with
  | false => rfl
  | true =>
    have none : units = 0 := by simpa [isBelowZero] using above
    simp [signedUnits, none]

/-- Numbers between zero and a finite one are finite, and their units are in order. -/
theorem units_le_of_le {x : Binary64} {negative : Bool} {units : Nat} {representable}
    (above : x.AtLeastZero) (le : x ≤ .finite negative units representable) :
    (finite negative units representable).isBelowZero = false ∧
      ∃ negative' units' representable', x = .finite negative' units' representable' ∧
        units' ≤ units := by
  cases x with
  | nan => exact absurd rfl above.1
  | infinite sign =>
    cases (le : sign = true)
    cases above.2
  | finite sign parts fits =>
    have le : signedUnits sign parts ≤ signedUnits negative units := le
    rw [signedUnits_of_not_below above.2] at le
    have above : 0 ≤ signedUnits negative units := Int.le_trans (Int.natCast_nonneg parts) le
    have positive : (finite negative units representable).AtLeastZero := atLeastZero_iff.mpr above
    rw [signedUnits_of_not_below positive.2] at le
    exact ⟨positive.2, sign, parts, fits, rfl, Int.ofNat_le.mp le⟩

theorem AtLeastZero.of_le {x y : Binary64} (above : x.AtLeastZero) (le : x ≤ y) :
    y.AtLeastZero := by
  cases y with
  | nan => cases x <;> exact le.elim
  | infinite negative =>
    refine ⟨nofun, ?_⟩
    cases x with
    | nan => exact le.elim
    | infinite negative' =>
      cases above.2
      exact le.resolve_left nofun
    | finite => exact le
  | finite => exact ⟨nofun, (units_le_of_le above le).1⟩

/-! ## Sums and quotients -/

private theorem representable_of_le {units units' : Nat} (granular : Granular units)
    (le : units ≤ units') (representable : Representable units') : Representable units :=
  ⟨granular, Nat.lt_of_le_of_lt (log2_le_log2 le) representable.2⟩

theorem ofUnits_of_representable {units : Nat} (representable : Representable units) :
    ofUnits false units = .finite false units representable := by
  rw [ofUnits, dif_pos representable]

private theorem ofUnits_of_not_representable {units : Nat} (past : ¬ Representable units) :
    ofUnits false units = .infinite false := by
  rw [ofUnits, dif_neg past]

private theorem ofUnits_le_infinite (units : Nat) : ofUnits false units ≤ .infinite false := by
  unfold ofUnits
  split
  · rfl
  · exact .inr rfl

/-- Counts of 53 bits make numbers of the same order, infinity after all others. -/
theorem ofUnits_le_ofUnits {units units' : Nat} (granular : Granular units) (le : units ≤ units') :
    ofUnits false units ≤ ofUnits false units' := by
  by_cases whole : Representable units'
  · have part := representable_of_le granular le whole
    rw [ofUnits_of_representable part, ofUnits_of_representable whole]
    exact Int.ofNat_le.mpr le
  · rw [ofUnits_of_not_representable whole]
    exact ofUnits_le_infinite units

/-- The sum of two counts is their sum rounded, also where one of them or the sum is infinite. -/
theorem ofUnits_add {units units' : Nat} (granular : Granular units) (granular' : Granular units') :
    ofUnits false units + ofUnits false units' = ofUnits false (nearestUnits (units + units') 1) := by
  by_cases first : Representable units
  · by_cases second : Representable units'
    · rw [ofUnits_of_representable first, ofUnits_of_representable second]
      change (if (units : Int) + units' = 0 then zero (false && false)
        else ofQuotient ((units : Int) + units' < 0) ((units : Int) + units').natAbs 1) = _
      split
      case isTrue none =>
        have none : units + units' = 0 := by omega
        rw [none]
        rfl
      case isFalse some =>
        have sign : ¬ (units : Int) + units' < 0 := by omega
        have size : ((units : Int) + units').natAbs = units + units' := by omega
        rw [decide_eq_false sign, size]
        rfl
    · have past : ¬ Representable (nearestUnits (units + units') 1) := fun fits =>
        second (representable_of_le granular' (le_nearestUnits granular' (by omega)) fits)
      rw [ofUnits_of_representable first, ofUnits_of_not_representable second,
        ofUnits_of_not_representable past]
      rfl
  · have past : ¬ Representable (nearestUnits (units + units') 1) := fun fits =>
      first (representable_of_le granular (le_nearestUnits granular (by omega)) fits)
    rw [ofUnits_of_not_representable first, ofUnits_of_not_representable past]
    unfold ofUnits
    split <;> rfl

theorem ofNat_eq (n : Nat) : ofNat n = ofUnits false (nearestUnits (n * oneUnits) 1) := by
  rw [ofNat, oneUnits_def, ofQuotient]

theorem ofNat_exact {n : Nat} (granular : Granular (n * oneUnits)) :
    ofNat n = ofUnits false (n * oneUnits) := by
  have same := nearestUnits_exact granular Nat.one_pos
  rw [Nat.mul_one] at same
  rw [ofNat_eq, same]

/-- The count of units of a finite number, without its sign. -/
def magnitude : Binary64 → Nat
  | .finite _ units _ => units
  | _ => 0

private theorem magnitude_ofUnits {units : Nat} (finite : (ofUnits false units).isFinite = true) :
    (ofUnits false units).magnitude = units := by
  unfold ofUnits at *
  split at finite
  · rw [dif_pos ‹_›]
    rfl
  · cases finite

private theorem finite_of_atLeastZero {x : Binary64} (finite : x.isFinite = true)
    (above : x.AtLeastZero) :
    ∃ negative units fits, x = .finite negative units fits ∧ signedUnits negative units = units := by
  cases x with
  | nan => cases finite
  | infinite => cases finite
  | finite negative units fits =>
    exact ⟨negative, units, fits, rfl, signedUnits_of_not_below above.2⟩

/-- A sum of numbers no less than zero is no less than either of them. -/
theorem magnitude_le_add {x y : Binary64} (first : x.AtLeastZero) (second : y.AtLeastZero)
    (finite : (x + y).isFinite = true) :
    x.magnitude ≤ (x + y).magnitude ∧ y.magnitude ≤ (x + y).magnitude := by
  obtain ⟨number, number'⟩ := isFinite_of_add finite
  obtain ⟨a, units, fits, rfl, signed⟩ := finite_of_atLeastZero number first
  obtain ⟨b, parts, fits', rfl, signed'⟩ := finite_of_atLeastZero number' second
  have sum : Binary64.finite a units fits + .finite b parts fits' =
      if (units : Int) + parts = 0 then zero (a && b)
      else ofQuotient ((units : Int) + parts < 0) ((units : Int) + parts).natAbs 1 := by
    rw [← signed, ← signed']
    rfl
  rw [sum] at finite ⊢
  change units ≤ _ ∧ parts ≤ _
  split at finite
  case isTrue none =>
    rw [if_pos none]
    change units ≤ 0 ∧ parts ≤ 0
    omega
  case isFalse some =>
    have sign : ¬ (units : Int) + parts < 0 := by omega
    have size : ((units : Int) + parts).natAbs = units + parts := by omega
    rw [decide_eq_false sign, size, ofQuotient] at finite
    rw [if_neg some, decide_eq_false sign, size, ofQuotient, magnitude_ofUnits finite]
    exact ⟨le_nearestUnits fits.1 (by omega), le_nearestUnits fits'.1 (by omega)⟩

private theorem magnitude_le_foldl {numbers : List Binary64} {total : Binary64}
    (least : total.AtLeastZero) (above : ∀ x ∈ numbers, x.AtLeastZero)
    (finite : (numbers.foldl (· + ·) total).isFinite = true) :
    total.magnitude ≤ (numbers.foldl (· + ·) total).magnitude ∧
      ∀ x ∈ numbers, x.magnitude ≤ (numbers.foldl (· + ·) total).magnitude := by
  induction numbers generalizing total with
  | nil => exact ⟨Nat.le_refl _, List.forall_mem_nil _⟩
  | cons x others ih =>
    obtain ⟨single, more⟩ := List.forall_mem_cons.mp above
    rw [List.foldl_cons] at finite ⊢
    obtain ⟨before, term⟩ := magnitude_le_add least single (isFinite_of_foldl finite).1
    obtain ⟨here, later⟩ := ih (atLeastZero_add least single) more finite
    exact ⟨Nat.le_trans before here, List.forall_mem_cons.mpr ⟨Nat.le_trans term here, later⟩⟩

/-- A sum of numbers no less than zero is no less than each of them. -/
theorem magnitude_le_sum {numbers : List Binary64} (above : ∀ x ∈ numbers, x.AtLeastZero)
    (finite : (sum numbers).isFinite = true) :
    ∀ x ∈ numbers, x.magnitude ≤ (sum numbers).magnitude := by
  have start : (zero true).AtLeastZero := ⟨nofun, rfl⟩
  exact (magnitude_le_foldl start above finite).2

/-- The negative zero leaves what it is added to as it is. -/
private theorem zero_add_ofUnits {units : Nat} (granular : Granular units) :
    zero true + ofUnits false units = ofUnits false units := by
  by_cases fits : Representable units
  · rw [ofUnits_of_representable fits]
    change (if (0 : Int) + units = 0 then zero (true && false)
      else ofQuotient ((0 : Int) + units < 0) ((0 : Int) + units).natAbs 1) = _
    split
    case isTrue none =>
      obtain rfl : units = 0 := by omega
      rfl
    case isFalse some =>
      have sign : ¬ (0 : Int) + units < 0 := by omega
      have size : ((0 : Int) + units).natAbs = units := by omega
      have exact := nearestUnits_exact granular Nat.one_pos
      rw [Nat.mul_one] at exact
      rw [decide_eq_false sign, size, ofQuotient, exact, ofUnits_of_representable fits]
  · unfold ofUnits
    rw [dif_neg fits]
    rfl

/-- Counts that are added in turn make a count of no more than the first of them and twice the
others. -/
private theorem foldl_ofUnits {counts : List Nat} (granular : ∀ units ∈ counts, Granular units) {first : Nat}
    (start : Granular first) :
    ∃ total, (counts.map (ofUnits false)).foldl (· + ·) (ofUnits false first) = ofUnits false total ∧
      Granular total ∧ total ≤ first + 2 * counts.sum := by
  induction counts generalizing first with
  | nil => exact ⟨first, rfl, start, Nat.le_add_right ..⟩
  | cons units others ih =>
    obtain ⟨single, more⟩ := List.forall_mem_cons.mp granular
    obtain ⟨total, sum, whole, le⟩ := ih more (granular_nearestUnits (first + units) Nat.one_pos)
    refine ⟨total, ?_, whole, ?_⟩
    · rw [List.map_cons, List.foldl_cons, ofUnits_add start single, sum]
    · have step := nearestUnits_add_le start units
      rw [List.sum_cons]
      omega

/-- Counts whose sum is far below the overflow threshold add up to a number, of no more than twice
that sum. -/
theorem sum_ofUnits {counts : List Nat} (places : Nat) (granular : ∀ units ∈ counts, Granular units)
    (le : 2 * counts.sum ≤ 2 ^ places) (small : places < 1024 + unitPlaces) :
    (sum (counts.map (ofUnits false))).isFinite = true ∧
      (sum (counts.map (ofUnits false))).magnitude ≤ 2 ^ places := by
  cases counts with
  | nil => exact ⟨rfl, Nat.zero_le _⟩
  | cons units others =>
    obtain ⟨single, more⟩ := List.forall_mem_cons.mp granular
    obtain ⟨total, same, whole, bound⟩ := foldl_ofUnits more single
    rw [List.sum_cons] at le
    have within : total ≤ 2 ^ places := by omega
    have fits : Representable total := representable_of_le_two_pow whole within small
    rw [sum, List.map_cons, List.foldl_cons, zero_add_ofUnits single, same,
      ofUnits_of_representable fits]
    exact ⟨rfl, within⟩

/-- The quotient of two counts is their quotient rounded. -/
theorem finite_div {units parts : Nat} (fits : Representable units) (fits' : Representable parts)
    (positive : 0 < parts) :
    finite false units fits / finite false parts fits' =
      ofUnits false (nearestUnits (units * oneUnits) parts) := by
  rw [← oneUnits_def]
  exact if_neg positive.ne'

/-- A positive number that is not infinite, by its units. -/
theorem finite_of_above {x : Binary64} (finite : x.isFinite = true) (above : x.isAboveZero = true) :
    ∃ parts representable, x = .finite false parts representable ∧ 0 < parts := by
  cases x with
  | finite negative parts representable =>
    obtain ⟨rfl, some⟩ : negative = false ∧ parts ≠ 0 := by simpa [isAboveZero] using above
    exact ⟨parts, representable, rfl, Nat.pos_of_ne_zero some⟩
  | _ => cases finite

theorem zero_div {divisor : Binary64} (finite : divisor.isFinite = true)
    (above : divisor.isAboveZero = true) : zero false / divisor = zero false := by
  obtain ⟨parts, representable, rfl, positive⟩ := finite_of_above finite above
  rw [zero, finite_div _ representable positive, Nat.zero_mul, nearestUnits_zero]
  rfl

/-- Division of counts by a positive number keeps their order. -/
theorem ofUnits_div_le_div {units units' : Nat} {divisor : Binary64} (granular : Granular units)
    (le : units ≤ units') (finite : divisor.isFinite = true) (above : divisor.isAboveZero = true) :
    ofUnits false units / divisor ≤ ofUnits false units' / divisor := by
  obtain ⟨parts, representable, rfl, positive⟩ := finite_of_above finite above
  have quotient {count : Nat} (fits : Representable count) :
      ofUnits false count / .finite false parts representable =
        ofUnits false (nearestUnits (count * oneUnits) parts) := by
    rw [ofUnits_of_representable fits, finite_div fits representable positive]
  by_cases whole : Representable units'
  · rw [quotient whole, quotient (representable_of_le granular le whole)]
    exact ofUnits_le_ofUnits (granular_nearestUnits _ positive)
      (nearestUnits_mono positive (Nat.mul_le_mul_right _ le))
  · have infinite : ofUnits false units' / .finite false parts representable = .infinite false := by
      rw [ofUnits_of_not_representable whole]
      rfl
    rw [infinite]
    by_cases part : Representable units
    · rw [quotient part]
      exact ofUnits_le_infinite _
    · rw [ofUnits_of_not_representable part]
      exact .inr rfl

/-- The quotient of a count by a positive number is no less than zero. -/
theorem atLeastZero_ofUnits_div {units : Nat} {divisor : Binary64} (granular : Granular units)
    (finite : divisor.isFinite = true) (above : divisor.isAboveZero = true) :
    (ofUnits false units / divisor).AtLeastZero := by
  have unsigned : divisor.Unsigned := by
    obtain ⟨parts, representable, rfl, -⟩ := finite_of_above finite above
    rfl
  refine ⟨fun none => ?_, (unsigned_div (unsigned_ofUnits units) unsigned).not_below⟩
  have same := ofUnits_div_le_div granular (Nat.le_refl units) finite above
  rw [none] at same
  exact same

end Binary64
end TermTape

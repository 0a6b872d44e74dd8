import Mathlib.Data.Nat.Digits.Defs
import TermTape.Proofs.Json.Numbers
import TermTape.Proofs.Number.Order

/-!
# Rounding by powers of ten

The readers round the digits of a number, then a power of ten, and then their product or quotient. A
number of 53 bits and a small power of ten are left as they are, so that only the last of these steps
rounds and gives the nearest number (`scaled_eq_nearest`); so are the texts with six places of times
up to some centuries (`readsNearest_of_brief`). The text of a time that is not out of all proportion
is read as a finite number, though not always the nearest (`readBack_of_moderate`).
-/
namespace TermTape

namespace Binary64

/-! ## Whole numbers and powers of ten -/

/-- A whole number of few bits is far below the overflow threshold. -/
theorem representable_whole {n bits : Nat} (granular : Granular (n * oneUnits)) (small : n ≤ 2 ^ bits)
    (few : bits < 1024) : Representable (n * oneUnits) :=
  representable_of_le_two_pow granular (mul_oneUnits_le small) (by omega)

/-- A small power of ten has few bits once its twos are taken out. -/
theorem granular_ten {k : Nat} (small : k ≤ 22) : Granular (10 ^ k * oneUnits) := by
  have fives : 5 ^ k ≤ 2 ^ 53 :=
    Nat.le_trans (Nat.pow_le_pow_right (by decide) small) (by decide)
  have split : 10 ^ k * oneUnits = 5 ^ k * 2 ^ (k + unitPlaces) := by
    rw [oneUnits_eq, Nat.pow_add, ← Nat.mul_assoc, ← Nat.mul_pow]
  rw [split]
  exact granular_mul_two_pow fives _

private theorem tenPower_def (k : Nat) : tenPower k = ofNat (10 ^ k) := rfl

/-! ## Products and quotients -/

private theorem finite_mul {units parts : Nat} (fits : Representable units)
    (fits' : Representable parts) :
    finite false units fits * finite false parts fits' =
      ofUnits false (nearestUnits (units * parts) oneUnits) := by
  rw [← oneUnits_def]
  rfl

private theorem scale_of_neg (x : Binary64) {exponent : Int} (below : exponent < 0)
    (least : exponent.natAbs ≤ greatestTen) : x.scale exponent = x / tenPower exponent.natAbs := by
  have once : (exponent.natAbs - 1) / greatestTen = 0 :=
    Nat.div_eq_of_lt (by unfold greatestTen at *; omega)
  rw [scale, if_pos below, divideTens, once]
  rfl

private theorem scale_of_nonneg (x : Binary64) {exponent : Int} (above : ¬ exponent < 0)
    (greatest : exponent.natAbs ≤ greatestTen) : x.scale exponent = x * tenPower exponent.natAbs := by
  rw [scale, if_neg above, if_pos (by omega)]

/-- A decimal with a small exponent is its quotient of whole numbers rounded. -/
theorem ofDecimal_near (n : Nat) {exponent : Int} (near : exponent.natAbs ≤ 22) :
    ofDecimal false n exponent =
      ofUnits false (nearestUnits (n * 10 ^ exponent.toNat * oneUnits) (10 ^ (-exponent).toNat)) := by
  unfold ofDecimal
  split
  · rename_i none
    rw [none, Nat.zero_mul, Nat.zero_mul, nearestUnits_zero]
    rfl
  · rw [if_neg (by omega), if_neg (by omega), oneUnits_def]
    rfl

/-- A number of 53 bits is scaled by a small power of ten with one rounding. -/
theorem scale_eq_ofDecimal {n : Nat} {exponent : Int} (small : n ≤ 2 ^ 53)
    (near : exponent.natAbs ≤ 22) : (ofNat n).scale exponent = ofDecimal false n exponent := by
  have whole : Representable (n * oneUnits) :=
    representable_whole (granular_whole small) small (by decide)
  have ten : Representable (10 ^ exponent.natAbs * oneUnits) := by
    have bits : 10 ^ exponent.natAbs ≤ 2 ^ 74 :=
      Nat.le_trans (Nat.pow_le_pow_right (by decide) near) (by decide)
    exact representable_whole (granular_ten near) bits (by decide)
  rw [ofDecimal_near n near]
  by_cases below : exponent < 0
  · have powers : exponent.toNat = 0 ∧ (-exponent).toNat = exponent.natAbs := by omega
    rw [scale_of_neg _ below (Nat.le_trans near (by decide)), tenPower_def,
      ofNat_exact whole.1, ofNat_exact ten.1, ofUnits_of_representable whole,
      ofUnits_of_representable ten, finite_div whole ten
        (Nat.mul_pos (Nat.pow_pos (by decide)) oneUnits_pos),
      nearestUnits_mul_right _ _ oneUnits_pos, powers.1, powers.2, Nat.pow_zero, Nat.mul_one]
  · have powers : exponent.toNat = exponent.natAbs ∧ (-exponent).toNat = 0 := by omega
    have moved : n * oneUnits * (10 ^ exponent.natAbs * oneUnits) =
        n * 10 ^ exponent.natAbs * oneUnits * oneUnits := by ring
    have once := nearestUnits_mul_right (n * 10 ^ exponent.natAbs * oneUnits) 1 oneUnits_pos
    rw [Nat.one_mul] at once
    rw [scale_of_nonneg _ below (Nat.le_trans near (by decide)), tenPower_def,
      ofNat_exact whole.1, ofNat_exact ten.1, ofUnits_of_representable whole,
      ofUnits_of_representable ten, finite_mul whole ten, moved, once, powers.1, powers.2,
      Nat.pow_zero]

/-! ## Bounds -/

/-- A number without a sign that is no more than a power of two. -/
def UpTo (bits : Nat) (x : Binary64) : Prop :=
  ∃ units fits, x = finite false units fits ∧ units ≤ 2 ^ (bits + unitPlaces)

private theorem upTo_ofUnits {units bits : Nat} (granular : Granular units)
    (le : units ≤ 2 ^ (bits + unitPlaces)) (few : bits < 1024) : (ofUnits false units).UpTo bits := by
  have fits : Representable units := representable_of_le_two_pow granular le (by omega)
  exact ⟨units, fits, ofUnits_of_representable fits, le⟩

private theorem upTo_ofNat {n bits : Nat} (small : n ≤ 2 ^ bits) (few : bits < 1024) :
    (ofNat n).UpTo bits := by
  rw [ofNat_eq]
  exact upTo_ofUnits (granular_nearestUnits _ Nat.one_pos) (nearestUnits_whole_le small) few

private theorem upTo_mul {x y : Binary64} {a b : Nat} (first : x.UpTo a) (second : y.UpTo b)
    (few : a + b < 1024) : (x * y).UpTo (a + b) := by
  obtain ⟨units, fits, rfl, le⟩ := first
  obtain ⟨parts, fits', rfl, le'⟩ := second
  rw [finite_mul fits fits']
  refine upTo_ofUnits (granular_nearestUnits _ oneUnits_pos) ?_ few
  refine nearestUnits_le_two_pow oneUnits_pos ?_
  calc units * parts ≤ 2 ^ (a + unitPlaces) * 2 ^ (b + unitPlaces) := Nat.mul_le_mul le le'
    _ = 2 ^ (a + b + unitPlaces) * oneUnits := by
      simp only [two_pow_add_unitPlaces, Nat.pow_add 2 a b]
      ring

private theorem upTo_div {x : Binary64} {bits parts : Nat} (first : x.UpTo bits)
    (fits' : Representable parts) (one : oneUnits ≤ parts) (few : bits < 1024) :
    (x / finite false parts fits').UpTo bits := by
  obtain ⟨units, fits, rfl, le⟩ := first
  have positive : 0 < parts := Nat.lt_of_lt_of_le oneUnits_pos one
  rw [finite_div fits fits' positive]
  exact upTo_ofUnits (granular_nearestUnits _ positive)
    (nearestUnits_le_two_pow positive (Nat.mul_le_mul le one)) few

/-- A power of ten has no more than four bits for each place. -/
theorem upTo_tenPower {k : Nat} (small : k ≤ 220) : (tenPower k).UpTo (4 * k) := by
  have bits : 10 ^ k ≤ 2 ^ (4 * k) := by
    rw [Nat.pow_mul]
    exact Nat.pow_le_pow_left (by decide) k
  exact upTo_ofNat bits (by omega)

private theorem one_le_tenPower {k : Nat} (small : k ≤ 220) :
    ∃ parts fits, tenPower k = finite false parts fits ∧ oneUnits ≤ parts := by
  obtain ⟨parts, fits, ten, -⟩ := upTo_tenPower small
  refine ⟨parts, fits, ten, ?_⟩
  have rounded : nearestUnits (10 ^ k * oneUnits) 1 = parts := by
    rw [tenPower_def, ofNat_eq] at ten
    unfold ofUnits at ten
    split at ten
    · exact (finite.inj ten).2
    · cases ten
  have granular : Granular oneUnits := by
    rw [oneUnits_eq]
    exact granular_two_pow unitPlaces
  calc oneUnits = nearestUnits (oneUnits * 1) 1 := (nearestUnits_exact granular Nat.one_pos).symm
    _ ≤ nearestUnits (10 ^ k * oneUnits) 1 := by
      refine nearestUnits_mono Nat.one_pos ?_
      rw [Nat.mul_one]
      exact Nat.le_mul_of_pos_left _ (Nat.pow_pos (by decide))
    _ = parts := rounded

/-- A whole number of 64 bits stays far below the overflow threshold under a moderate exponent. -/
theorem upTo_scale {n : Nat} {exponent : Int} (small : n ≤ 2 ^ 64) (moderate : exponent.natAbs ≤ 220) :
    ((ofNat n).scale exponent).UpTo (64 + 4 * exponent.natAbs) := by
  have whole : (ofNat n).UpTo 64 := upTo_ofNat small (by decide)
  have listed : exponent.natAbs ≤ greatestTen := Nat.le_trans moderate (by decide)
  by_cases below : exponent < 0
  · obtain ⟨parts, fits, ten, one⟩ := one_le_tenPower moderate
    rw [scale_of_neg _ below listed, ten]
    obtain ⟨units, fits, quotient, le⟩ := upTo_div whole fits one (by decide)
    exact ⟨units, fits, quotient, Nat.le_trans le (Nat.pow_le_pow_right (by decide) (by omega))⟩
  · rw [scale_of_nonneg _ below listed]
    exact upTo_mul whole (upTo_tenPower moderate) (by omega)

private theorem scale_zero {n : Nat} (small : n ≤ 2 ^ 64) : (ofNat n).scale 0 = ofNat n := by
  obtain ⟨units, fits, whole, -⟩ := upTo_ofNat small (by decide)
  have bit : 1 ≤ 2 ^ 53 := by decide
  have granular : Granular (1 * oneUnits) := granular_whole bit
  have one : Representable (1 * oneUnits) := representable_whole granular bit (by decide)
  have ten : tenPower 0 = .finite false (1 * oneUnits) one := by
    rw [tenPower_def, Nat.pow_zero, ofNat_exact granular, ofUnits_of_representable one]
  have above : ¬ (0 : Int) < 0 := by decide
  rw [scale_of_nonneg _ above (by decide), Int.natAbs_zero, ten, whole, finite_mul fits one,
    Nat.one_mul, nearestUnits_exact fits.1 oneUnits_pos, ofUnits_of_representable fits]

/-! ## Signs -/

theorem neg_ofUnits (units : Nat) : -ofUnits false units = ofUnits true units := by
  unfold ofUnits
  split <;> rfl

private theorem neg_ofDecimal (n : Nat) (exponent : Int) :
    -ofDecimal false n exponent = ofDecimal true n exponent := by
  unfold ofDecimal
  split
  · rfl
  split
  · rfl
  split
  · rfl
  · exact neg_ofUnits _

end Binary64

namespace Json

/-! ## Digits that 64 bits hold -/

/-- The value of decimal digits after those of a number. -/
def decimalFrom (n : Nat) (digits : Bytes) : Nat :=
  digits.foldl (fun n b => 10 * n + (b.toNat - 0x30)) n

private theorem le_decimalFrom (n : Nat) (digits : Bytes) : n ≤ decimalFrom n digits := by
  induction digits generalizing n with
  | nil => exact Nat.le_refl n
  | cons b rest ih => exact Nat.le_trans (by dsimp only; omega) (ih _)

/-- Digits of a number that 64 bits hold are all taken. -/
theorem gather_of_le {n : Nat} {digits : Bytes} (small : decimalFrom n digits ≤ greatestWhole) :
    gather n digits = (decimalFrom n digits, 0) := by
  induction digits generalizing n with
  | nil => rfl
  | cons b rest ih =>
    have first : 10 * n + (b.toNat - 0x30) ≤ greatestWhole :=
      Nat.le_trans (le_decimalFrom _ rest) small
    rw [gather, if_pos first, ih small]
    rfl

/-- What is taken stays in 64 bits, and no more digits are left than there are. -/
theorem gather_le {n : Nat} (small : n ≤ greatestWhole) (digits : Bytes) :
    (gather n digits).1 ≤ greatestWhole ∧ (gather n digits).2 ≤ digits.length := by
  induction digits generalizing n with
  | nil => exact ⟨small, Nat.le_refl _⟩
  | cons b rest ih =>
    rw [gather]
    split
    · rename_i next
      exact ⟨(ih next).1, Nat.le_succ_of_le (ih next).2⟩
    · exact ⟨small, Nat.le_refl _⟩

namespace Parts

private theorem leading_of_le {parts : Parts} (small : parts.significand ≤ greatestWhole) :
    parts.leading = (parts.significand, parts.power) := by
  have split : parts.significand = decimalFrom (decimalValue parts.whole) parts.fraction :=
    List.foldl_append
  have whole : decimalValue parts.whole ≤ greatestWhole :=
    Nat.le_trans (le_decimalFrom _ parts.fraction) (split ▸ small)
  have first : gather 0 parts.whole = (decimalValue parts.whole, 0) := gather_of_le whole
  rw [leading, first, gather_of_le (split ▸ small), split]
  simp

/-- A number with a significand of 53 bits and a small exponent is read as the nearest number. -/
theorem scaled_eq_nearest (parts : Parts) (small : parts.significand ≤ 2 ^ 53)
    (near : parts.power.natAbs ≤ 22) : parts.scaled = parts.nearest := by
  have same := Binary64.scale_eq_ofDecimal small near
  have bits : parts.significand ≤ greatestWhole := Nat.le_trans small (by decide)
  unfold scaled
  extract_lets x
  have value : x = .ofDecimal false parts.significand parts.power := by
    rw [← same]
    unfold x
    rw [leading_of_le bits]
  rw [value, nearest]
  cases parts.negative with
  | false => rw [if_neg Bool.false_ne_true]
  | true => rw [if_pos rfl, Binary64.neg_ofDecimal]

/-- The digits of a whole number of 64 bits are rounded once. -/
theorem scaled_whole (negative : Bool) {digits : Bytes} (small : decimalValue digits ≤ greatestWhole) :
    scaled ⟨negative, digits, [], 0⟩ =
      if negative then -Binary64.ofNat (decimalValue digits) else .ofNat (decimalValue digits) := by
  have significand : significand ⟨negative, digits, [], 0⟩ = decimalValue digits := by
    rw [Parts.significand, List.append_nil]
  have power : power ⟨negative, digits, [], 0⟩ = 0 := rfl
  have all : leading ⟨negative, digits, [], 0⟩ = (decimalValue digits, 0) := by
    rw [leading_of_le (significand ▸ small), significand, power]
  rw [scaled, all, Binary64.scale_zero (Nat.le_trans small (by decide))]

private theorem leading_le (parts : Parts) :
    parts.leading.1 ≤ greatestWhole ∧ parts.power ≤ parts.leading.2 ∧
      parts.leading.2 ≤ parts.whole.length + parts.exponent := by
  obtain ⟨first, dropped⟩ := gather_le (Nat.zero_le _) parts.whole
  obtain ⟨digits, left⟩ := gather_le first parts.fraction
  refine ⟨digits, ?_, ?_⟩
  · rw [leading]
    dsimp only
    omega
  · rw [leading, power]
    dsimp only
    omega

/-- Parts of moderate size are read as a finite number with their sign. -/
theorem scaled_moderate (parts : Parts) (least : -220 ≤ parts.power)
    (greatest : parts.whole.length + parts.exponent ≤ 220) :
    ∃ units fits, parts.scaled = .finite parts.negative units fits := by
  obtain ⟨digits, low, high⟩ := parts.leading_le
  have bits : parts.leading.1 ≤ 2 ^ 64 := Nat.le_trans digits (by decide)
  have moderate : parts.leading.2.natAbs ≤ 220 := by omega
  obtain ⟨units, fits, value, -⟩ := Binary64.upTo_scale bits moderate
  refine ⟨units, fits, ?_⟩
  unfold scaled
  extract_lets x
  have same : x = .finite false units fits := value
  rw [same]
  cases parts.negative with
  | false => rfl
  | true => rfl

end Parts

end Json

/-! ## Times -/

namespace Binary64

/-- A finite number of no more than `2^53` millionths; in seconds, these are more than 285 years. -/
def Brief (x : Binary64) : Prop := x.isFinite = true ∧ millionths x.magnitude ≤ Nat.pow 2 53

instance (x : Binary64) : Decidable x.Brief := inferInstanceAs (Decidable (_ ∧ _))

/-- The text of a brief time is read as the number nearest to it. -/
theorem readsNearest_of_brief {x : Binary64} (brief : x.Brief) : x.ReadsNearest := by
  obtain ⟨number, small⟩ := brief
  cases x with
  | nan => cases number
  | infinite negative => cases number
  | finite negative units fits =>
    refine Json.Parts.scaled_eq_nearest (Json.sixParts negative (millionths units)) ?_ ?_
    · rw [Json.significand_sixParts]
      exact small
    · rw [Json.power_sixParts]
      decide

/-- A finite number whose millionths have no more than two hundred digits. -/
def Moderate (x : Binary64) : Prop :=
  x.isFinite = true ∧ millionths x.magnitude < Nat.pow 10 200

instance (x : Binary64) : Decidable x.Moderate := inferInstanceAs (Decidable (_ ∧ _))

/-- A number of no more than `2^67` is moderate. -/
theorem moderate_of_le {x : Binary64} (finite : x.isFinite = true)
    (le : x.magnitude ≤ 2 ^ (67 + unitPlaces)) : x.Moderate := by
  refine ⟨finite, ?_⟩
  have moved : 2 ^ (67 + unitPlaces) * million = 2 ^ 67 * million * oneUnits := by
    rw [two_pow_add_unitPlaces]
    ring
  calc millionths x.magnitude
      ≤ divNearest (2 ^ (67 + unitPlaces) * million) oneUnits :=
        divNearest_mono _ (Nat.mul_le_mul_right _ le)
    _ = 2 ^ 67 * million := by rw [moved, divNearest_mul _ oneUnits_pos]
    _ < Nat.pow 10 200 := by decide

theorem Moderate.of_le {x y : Binary64} (moderate : y.Moderate) (finite : x.isFinite = true)
    (le : x.magnitude ≤ y.magnitude) : x.Moderate :=
  ⟨finite, Nat.lt_of_le_of_lt (divNearest_mono _ (Nat.mul_le_mul_right _ le)) moderate.2⟩

/-- The text of a moderate number is read as a finite number, below zero only if the number is. -/
theorem readBack_of_moderate {x : Binary64} (moderate : x.Moderate) :
    x.readBack.isFinite = true ∧ (x.readBack.isBelowZero = true → x.isBelowZero = true) := by
  obtain ⟨number, small⟩ := moderate
  cases x with
  | nan => cases number
  | infinite negative => cases number
  | finite negative units fits =>
    have few : (Json.sixParts negative (millionths units)).whole.length ≤ 200 := by
      rw [Json.sixParts, List.length_map]
      exact Nat.toDigits_length 10 _ 200 (by decide) (Nat.lt_of_le_of_lt (Nat.div_le_self _ _) small)
    have power : (Json.sixParts negative (millionths units)).power = -6 := Json.power_sixParts _ _
    have unwritten : (Json.sixParts negative (millionths units)).exponent = 0 := rfl
    obtain ⟨units', fits', back⟩ : ∃ units' fits',
        (finite negative units fits).readBack = finite negative units' fits' :=
      Json.Parts.scaled_moderate (Json.sixParts negative (millionths units)) (by omega) (by omega)
    refine ⟨by rw [back]; rfl, fun below => ?_⟩
    by_cases none : units = 0
    · -- The text of zero has no other digit, and is read as the nearest number, which is zero.
      subst none
      have zeros : millionths 0 ≤ Nat.pow 2 53 := by
        rw [millionths, Nat.zero_mul, divNearest_zero]
        exact Nat.zero_le _
      have nearest : (finite negative 0 fits).ReadsNearest := readsNearest_of_brief ⟨rfl, zeros⟩
      rw [Json.readBack_of_readsNearest rfl nearest, sixPlaces_finite] at below
      simp [isBelowZero, reread_zero] at below
    · rw [back] at below
      simp only [isBelowZero, Bool.and_eq_true] at below
      simp [isBelowZero, below.1, none]

end Binary64
end TermTape

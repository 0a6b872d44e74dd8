import TermTape.Proofs.Number.Digits
import TermTape.Proofs.Number.SixPlaces

/-!
# Texts with six places

The text of a finite number with six places is its sign, the digits of its whole part, a point and
six digits (`fixed_finite`). It is read as the nearest number (`readReal_fixed`), which is finite
and has the same text (`fixed_sixPlaces`); it is below zero exactly when the text has a minus sign
and a digit other than zero (`isBelowZero_sixPlaces`).
-/
namespace TermTape

/-- The digits of some millionths, a point before the last six. -/
def sixDigits (parts : Nat) : List Char :=
  Nat.toDigits 10 (parts / million) ++ '.' :: places 10 6 (parts % million)

/-- A minus sign for a negative number. -/
def signChars (negative : Bool) : List Char := if negative then ['-'] else []

private theorem million_def : Nat.pow 10 6 = million := rfl

private theorem million_pow : million = 10 ^ 6 := by
  rw [million_eq]
  norm_num

private theorem millionths_def (units : Nat) :
    divNearest (units * million) (Nat.pow 2 unitPlaces) = millionths units := by
  rw [millionths, oneUnits_def]

private theorem padded_six {n : Nat} (small : n < million) :
    List.replicate (6 - (Nat.toDigits 10 n).length) '0' ++ Nat.toDigits 10 n = places 10 6 n := by
  rw [million_pow] at small
  exact padded_eq_places (by decide) 5 n small

private theorem toList_paddedText {n : Nat} (small : n < million) :
    (paddedText 6 n).toList = places 10 6 n := by
  rw [paddedText, String.toList_ofList, padded_six small]

private theorem toList_signText (negative : Bool) :
    (Binary64.signText negative).toList = signChars negative := by
  cases negative <;> rfl

theorem fixed_finite (negative : Bool) (units : Nat) (h : Representable units) :
    ((Binary64.finite negative units h).fixed 6).toList =
      signChars negative ++ sixDigits (millionths units) := by
  have small : millionths units % million < million := Nat.mod_lt _ (by decide)
  have point : ".".toList = ['.'] := rfl
  rw [Binary64.fixed, million_def, millionths_def, if_neg (by decide)]
  simp only [String.toList_append, toList_signText, toList_paddedText small, wholeText, point,
    String.toList_ofList, sixDigits, List.append_assoc, List.cons_append, List.nil_append]

theorem isDigit_of_mem_places {width n : Nat} {c : Char} (h : c ∈ places 10 width n) :
    c.isDigit = true := by
  induction width generalizing n with
  | zero => simp [places] at h
  | succ width ih =>
    rcases List.mem_append.mp h with front | last
    · exact ih front
    · rw [List.mem_singleton.mp last]
      exact isDigit_of_mem_toDigits (n := n % 10)
        (by rw [Nat.toDigits_of_lt_base (Nat.mod_lt n (by decide))]; simp)

theorem digitsValue_six (parts : Nat) :
    digitsValue (Nat.toDigits 10 (parts / million) ++ places 10 6 (parts % million)) = parts := by
  have small : parts % million < million := Nat.mod_lt _ (by decide)
  have value : digitsValue (places 10 6 (parts % million)) = parts % million := by
    rw [← padded_six small, digitsValue_eq, Nat.ofDigitChars_append,
      Nat.ofDigitChars_replicate_zero, Nat.mul_zero, Nat.ofDigitChars_ten_toDigits]
  rw [digitsValue_append, digitsValue_toDigits, value, length_places, ← million_pow]
  exact Nat.div_add_mod parts million

/-! ## Reading -/

private theorem unitsOf_zero : unitsOf 0 = 0 := by
  rw [unitsOf, Nat.zero_mul]
  decide

/-- Six places after the point make a quotient by a million. -/
theorem ofDecimal_six (negative : Bool) (parts : Nat) :
    Binary64.ofDecimal negative parts (-6) = Binary64.ofUnits negative (unitsOf parts) := by
  unfold Binary64.ofDecimal
  by_cases zero : parts = 0
  · subst zero
    rw [if_pos rfl, unitsOf_zero]
    rfl
  · rw [if_neg zero, if_neg (by decide), if_neg (by omega), Binary64.ofQuotient, oneUnits_def]
    have ten : Nat.pow 10 (Int.toNat (-6)) = 1 := rfl
    have six : Nat.pow 10 (Int.toNat (- -6)) = million := rfl
    rw [ten, six, Nat.mul_one, unitsOf]

/-- A number as it is read from its text with six places. -/
def Binary64.sixPlaces : Binary64 → Binary64
  | .finite negative units _ => .ofUnits negative (reread units)
  | x => x

/-- A decimal with six places is read with its sign. -/
theorem decimalOf?_six (negative : Bool) (parts : Nat) :
    decimalOf? negative (sixDigits parts) = some (.ofUnits negative (unitsOf parts)) := by
  have wholeDigits : ∀ c ∈ Nat.toDigits 10 (parts / million), c.isDigit = true :=
    fun _ => isDigit_of_mem_toDigits
  have fractionDigits : ∀ c ∈ places 10 6 (parts % million), c.isDigit = true :=
    fun _ => isDigit_of_mem_places
  obtain ⟨whole, afterWhole⟩ :=
    takeWhile_append_stop ('.' :: places 10 6 (parts % million)) wholeDigits (by simp)
  obtain ⟨fraction, afterFraction⟩ := takeWhile_append_stop [] fractionDigits (by simp)
  rw [List.append_nil] at fraction afterFraction
  simp only [decimalOf?, sixDigits, whole, afterWhole, fraction, afterFraction, digitsValue_six,
    length_places]
  simp [ofDecimal_six]

private theorem sixDigits_cons (parts : Nat) :
    ∃ c rest, sixDigits parts = c :: rest ∧ c.isDigit = true := by
  cases digits : Nat.toDigits 10 (parts / million) with
  | nil => exact absurd digits Nat.toDigits_ne_nil
  | cons c rest =>
    refine ⟨c, rest ++ '.' :: places 10 6 (parts % million), by rw [sixDigits, digits]; rfl, ?_⟩
    exact isDigit_of_mem_toDigits (n := parts / million) (by simp [digits])

private theorem toLower_of_isDigit {c : Char} (h : c.isDigit = true) : c.toLower = c := by
  have small : c.toNat ≤ 57 := (Char.isDigit_iff_toNat.mp h).2
  refine dif_neg fun upper => ?_
  have large : 65 ≤ c.toNat := UInt32.le_iff_toNat_le.mp upper.1
  omega

private theorem unsignedRealOf?_six (negative : Bool) (parts : Nat) :
    unsignedRealOf? negative (sixDigits parts) = some (.ofUnits negative (unitsOf parts)) := by
  obtain ⟨c, rest, text, digit⟩ := sixDigits_cons parts
  have lower := toLower_of_isDigit digit
  have named : ∀ name : String, name.toList.head?.any Char.isDigit = false →
      (String.ofList ((sixDigits parts).map Char.toLower) == name) = false := by
    intro name letter
    rw [beq_eq_false_iff_ne, text]
    rintro rfl
    simp [lower, digit] at letter
  rw [unsignedRealOf?, named "nan" (by decide), named "inf" (by decide), named "infinity" (by decide)]
  simp [decimalOf?_six]

/-- The text of a finite number with six places is read as the nearest number. -/
theorem readReal_fixed (negative : Bool) (units : Nat) (h : Representable units) :
    readReal ((Binary64.finite negative units h).fixed 6) = .ok (.ofUnits negative (reread units)) := by
  obtain ⟨c, rest, text, digit⟩ := sixDigits_cons (millionths units)
  have number := unsignedRealOf?_six negative (millionths units)
  unfold readReal
  rw [fixed_finite]
  cases negative with
  | true => simp [signChars, number, reread]
  | false =>
    have minus : c ≠ '-' := by rintro rfl; simp at digit
    have plus : c ≠ '+' := by rintro rfl; simp at digit
    simp only [signChars, Bool.false_eq_true, if_false, List.nil_append, text] at number ⊢
    simp [number, reread, minus, plus]

/-! ## The number that is read -/

theorem ofUnits_of_representable {units : Nat} (h : Representable units) (negative : Bool) :
    Binary64.ofUnits negative units = .finite negative units h :=
  dif_pos h

theorem sixPlaces_finite (negative : Bool) {units : Nat} (h : Representable units) :
    (Binary64.finite negative units h).sixPlaces =
      .finite negative (reread units) (representable_reread h) :=
  ofUnits_of_representable (representable_reread h) negative

theorem isFinite_sixPlaces {x : Binary64} (finite : x.isFinite = true) :
    x.sixPlaces.isFinite = true := by
  cases x with
  | nan => exact finite
  | infinite negative => exact finite
  | finite negative units h => rw [sixPlaces_finite]; rfl

/-- A number that was read from its text with six places has this text again. -/
theorem fixed_sixPlaces (x : Binary64) : x.sixPlaces.fixed 6 = x.fixed 6 := by
  cases x with
  | nan => rfl
  | infinite negative => rfl
  | finite negative units h =>
    rw [sixPlaces_finite, ← String.toList_inj, fixed_finite, fixed_finite,
      millionths_reread (granular_of_representable h)]

/-- The text of a finite number is read as the number that stands for it. -/
theorem readReal_sixPlaces {x : Binary64} (finite : x.isFinite = true) :
    readReal (x.fixed 6) = .ok x.sixPlaces := by
  cases x with
  | nan => cases finite
  | infinite negative => cases finite
  | finite negative units h =>
    rw [readReal_fixed, sixPlaces_finite, ofUnits_of_representable (representable_reread h)]

/-- A text denotes a decimal below zero: it has a minus sign first, and a digit other than zero. -/
def DenotesBelowZero (text : String) : Prop :=
  text.toList.head? = some '-' ∧ ∃ c ∈ text.toList, c.isDigit = true ∧ c ≠ '0'

instance (text : String) : Decidable (DenotesBelowZero text) :=
  decidable_of_iff (text.toList.head? = some '-' ∧
    text.toList.any (fun c => c.isDigit && c != '0') = true) (by simp [DenotesBelowZero])

/-- Some millionths are no units only if they are none themselves. -/
theorem unitsOf_eq_zero {parts : Nat} : unitsOf parts = 0 ↔ parts = 0 := by
  refine ⟨fun zero => ?_, fun zero => by rw [zero, unitsOf_zero]⟩
  by_contra some
  obtain ⟨-, below⟩ := unitsOf_bounds parts
  have large : million ≤ parts * oneUnits := by
    have one : million * 2 ^ 0 < oneUnits := million_mul_lt (by unfold unitPlaces; omega)
    rw [Nat.pow_zero, Nat.mul_one] at one
    exact Nat.le_trans (Nat.le_of_lt one) (Nat.le_mul_of_pos_left _ (Nat.pos_of_ne_zero some))
  have nonzero : parts * oneUnits / million ≠ 0 :=
    Nat.ne_of_gt (Nat.div_pos large (by decide))
  have leads : 2 ^ lead parts * million ≤ parts * oneUnits :=
    (Nat.le_div_iff_mul_le (by decide)).mp (Nat.log2_self_le nonzero)
  have coarser : million * 2 ^ (lead parts - 52) ≤ million * 2 ^ lead parts :=
    Nat.mul_le_mul_left _ (Nat.pow_le_pow_right (by decide) (by omega))
  have : 0 < million := by decide
  rw [zero, Nat.mul_comm (2 ^ lead parts)] at *
  omega

private theorem digit_of_sixDigits {parts : Nat} (h : parts ≠ 0) :
    ∃ c ∈ sixDigits parts, c.isDigit = true ∧ c ≠ '0' := by
  by_contra none
  apply h
  have zeros : ∀ c ∈ Nat.toDigits 10 (parts / million) ++ places 10 6 (parts % million), c = '0' := by
    intro c member
    by_contra other
    refine none ⟨c, ?_, ?_, other⟩
    · rcases List.mem_append.mp member with front | back
      · exact List.mem_append_left _ front
      · exact List.mem_append_right _ (List.mem_cons_of_mem _ back)
    · rcases List.mem_append.mp member with front | back
      · exact isDigit_of_mem_toDigits front
      · exact isDigit_of_mem_places back
  rw [← digitsValue_six parts, List.eq_replicate_of_mem zeros, digitsValue_eq,
    Nat.ofDigitChars_replicate_zero, Nat.mul_zero]

private theorem digits_of_sixDigits_zero : ∀ c ∈ sixDigits 0, c.isDigit = true → c = '0' := by
  have zeros : (sixDigits 0).all (fun c => !c.isDigit || c == '0') = true := by decide
  intro c member digit
  simpa [digit] using List.all_eq_true.mp zeros c member

theorem reread_zero : reread 0 = 0 := by
  have none : millionths 0 = 0 := by
    rw [millionths, Nat.zero_mul, divNearest_zero]
  rw [reread, none, unitsOf_zero]

/-- What is read from six places is below zero exactly when the text denotes such a decimal. -/
theorem isBelowZero_sixPlaces {x : Binary64} (finite : x.isFinite = true) :
    x.sixPlaces.isBelowZero = true ↔ DenotesBelowZero (x.fixed 6) := by
  cases x with
  | nan => cases finite
  | infinite negative => cases finite
  | finite negative units h =>
    rw [sixPlaces_finite, DenotesBelowZero, fixed_finite]
    obtain ⟨first, rest, text, digit⟩ := sixDigits_cons (millionths units)
    cases negative with
    | false =>
      have plain : first ≠ '-' := by rintro rfl; simp at digit
      simp [Binary64.isBelowZero, signChars, text, plain]
    | true =>
      have below : (Binary64.finite true (reread units) (representable_reread h)).isBelowZero = true ↔
          millionths units ≠ 0 := by
        simp [Binary64.isBelowZero, reread, unitsOf_eq_zero]
      rw [below]
      constructor
      · intro nonzero
        obtain ⟨c, member, isDigit, other⟩ := digit_of_sixDigits nonzero
        exact ⟨rfl, c, List.mem_append_right _ member, isDigit, other⟩
      · rintro ⟨-, c, member, isDigit, other⟩ zero
        rw [zero] at member
        rcases List.mem_append.mp member with sign | later
        · rw [List.mem_singleton.mp sign] at isDigit
          cases isDigit
        · exact other (digits_of_sixDigits_zero c later isDigit)

/-- The text of a number that is not below zero denotes none that is. -/
theorem not_denotesBelowZero {x : Binary64} (finite : x.isFinite = true)
    (above : x.isBelowZero = false) : ¬ DenotesBelowZero (x.fixed 6) := by
  rw [← isBelowZero_sixPlaces finite]
  cases x with
  | nan => cases finite
  | infinite negative => cases finite
  | finite negative units h =>
    rw [sixPlaces_finite]
    cases negative with
    | false => simp [Binary64.isBelowZero]
    | true =>
      have none : units = 0 := by simpa [Binary64.isBelowZero] using above
      subst none
      simp [Binary64.isBelowZero, reread_zero]

end TermTape

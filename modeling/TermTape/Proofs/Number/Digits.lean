import Mathlib.Tactic.Ring
import TermTape.Number.Layout
import TermTape.Number.Reading

/-!
# Digits of whole numbers

The decimal digits of a number have its value, also with zeros before them, and a number other than
zero does not begin with a zero. Digits that are filled up to a width are the places of the number
in its base (`padded_eq_places`).
-/
namespace TermTape

/-! ## Decimal digits -/

theorem digitsValue_eq (digits : List Char) : digitsValue digits = Nat.ofDigitChars 10 digits 0 :=
  Nat.ofDigitChars_eq_foldl.symm

theorem digitsValue_toDigits (n : Nat) : digitsValue (Nat.toDigits 10 n) = n := by
  rw [digitsValue_eq, Nat.ofDigitChars_ten_toDigits]

/-- Digits that go on with others. -/
theorem digitsValue_append (front back : List Char) :
    digitsValue (front ++ back) = 10 ^ back.length * digitsValue front + digitsValue back := by
  simp only [digitsValue_eq, Nat.ofDigitChars_append]
  exact Nat.ofDigitChars_eq_ofDigitChars_zero

theorem isDigit_of_mem_toDigits {n : Nat} {c : Char} (h : c ∈ Nat.toDigits 10 n) :
    c.isDigit = true :=
  Nat.isDigit_of_mem_toDigits (by decide) (by decide) h

/-- Characters of one kind are all that is taken when another kind stops them. -/
theorem takeWhile_append_stop {α : Type} {p : α → Bool} {front : List α} (rest : List α)
    (h : ∀ x ∈ front, p x = true) (stop : ∀ x ∈ rest.head?, p x = false) :
    (front ++ rest).takeWhile p = front ∧ (front ++ rest).dropWhile p = rest := by
  rw [List.takeWhile_append_of_pos h, List.dropWhile_append_of_pos h]
  cases rest with
  | nil => simp
  | cons c more => simp [stop c rfl]

/-- No zero stands before the digits of a number. -/
theorem head_toDigits {n : Nat} (h : n ≠ 0) : (Nat.toDigits 10 n).head? ≠ some '0' := by
  induction n using Nat.strongRecOn with
  | ind n ih =>
    by_cases single : n < 10
    · rw [Nat.toDigits_of_lt_base single]
      simpa using h
    · rw [Nat.toDigits_of_base_le (by decide) (by omega)]
      have front := ih (n / 10) (by omega) (by omega)
      cases digits : Nat.toDigits 10 (n / 10) with
      | nil => exact absurd digits Nat.toDigits_ne_nil
      | cons c rest => simpa [digits] using front

/-! ## Places -/

/-- The lowest places of a number in a base, up to a width. -/
def places (base : Nat) : Nat → Nat → List Char
  | 0, _ => []
  | width + 1, n => places base width (n / base) ++ [(n % base).digitChar]

theorem length_places (base width n : Nat) : (places base width n).length = width := by
  induction width generalizing n with
  | zero => rfl
  | succ width ih => simp [places, ih]

private theorem places_zero {base : Nat} (width : Nat) :
    places base width 0 = List.replicate width '0' := by
  induction width with
  | zero => rfl
  | succ width ih => simp [places, ih, List.replicate_succ']

/-- Digits with zeros before them up to a width that holds the number are its places. -/
theorem padded_eq_places {base : Nat} (big : 1 < base) (width : Nat) :
    ∀ n, n < base ^ (width + 1) →
      List.replicate (width + 1 - (Nat.toDigits base n).length) '0' ++ Nat.toDigits base n =
        places base (width + 1) n := by
  induction width with
  | zero =>
    intro n small
    rw [Nat.toDigits_of_lt_base (by simpa using small)]
    simp [places, Nat.mod_eq_of_lt (show n < base by simpa using small)]
  | succ width ih =>
    intro n small
    by_cases single : n < base
    · rw [Nat.toDigits_of_lt_base single, places, Nat.div_eq_of_lt single, places_zero,
        Nat.mod_eq_of_lt single]
      simp
    · have front := ih (n / base) (by
        rw [Nat.div_lt_iff_lt_mul (by omega), ← Nat.pow_succ]
        exact small)
      rw [Nat.toDigits_of_base_le big (by omega), places, ← front]
      simp

end TermTape

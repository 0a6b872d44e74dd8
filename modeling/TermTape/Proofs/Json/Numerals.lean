import TermTape.Proofs.Json.Ensured
import TermTape.Proofs.Json.Members
import TermTape.Proofs.Json.Rounding
import TermTape.Proofs.Json.SettledNumbers

/-!
# Numerals and their numbers

A numeral stands for the number that the readers round its digits and its exponent to
(`Numeral.value`). It is read as this number when it is finite, up to a byte that no number goes on
with, and refused otherwise (`readReal_numeral`); and so is any other value where a number is read
(`readReal_value`).
-/
namespace TermTape.Json

variable {ending : Ending} {d : UInt8} {rest : Bytes}

/-! ## Values -/

/-- The exponent of ten that an exponent stands for. -/
def Exponent.value (exponent : Exponent) : Int :=
  if exponent.sign = some true then -(digitsValue exponent.digits : Int)
  else digitsValue exponent.digits

namespace Numeral

/-- The sign, the digits and the exponent of a numeral. -/
def parts (numeral : Numeral) : Parts :=
  ⟨numeral.negative, (Nat.toDigits 10 numeral.whole).map byte, numeral.fraction.map byte,
    (numeral.exponent.map Exponent.value).getD 0⟩

/-- The exponent is past the greatest one that is read, and there is a digit other than zero. -/
def beyond (numeral : Numeral) : Bool :=
  numeral.exponent.any (fun exponent => (greatestExponent : Int) < exponent.value) &&
    numeral.parts.significand != 0

/-- The number that the readers round a numeral to; it is infinite past the greatest exponent. -/
def value (numeral : Numeral) : Binary64 :=
  if numeral.beyond then .infinite numeral.negative else numeral.parts.scaled

end Numeral

/-! ## What is made of a numeral -/

/-- What is made of digits with an exponent after them. -/
def Parts.raised (parts : Parts) (exponent : Exponent) : Except Fault Number :=
  if (greatestExponent : Int) < exponent.value && parts.significand != 0 then breach .numberRange
  else Parts.real { parts with exponent := exponent.value }

/-- What is made of a numeral. -/
def Numeral.number (numeral : Numeral) : Except Fault Number :=
  match numeral.exponent with
  | some exponent => numeral.parts.raised exponent
  | none =>
    if numeral.fraction = [] then
      wholeNumber numeral.negative ((Nat.toDigits 10 numeral.whole).map byte)
    else numeral.parts.real

/-- What is made is a number, or is refused where the number would not be finite. -/
def StandsFor (made : Except Fault Number) (x : Binary64) : Prop :=
  (∃ number, made = .ok number ∧ number.toReal = x ∧ x.isFinite = true) ∨
    (∃ fault, made = .error fault) ∧ x.isFinite = false

private theorem real_standsFor (parts : Parts) : StandsFor parts.real parts.scaled := by
  unfold Parts.real
  extract_lets x
  split
  · rename_i finite
    exact .inl ⟨_, rfl, rfl, finite⟩
  · rename_i infinite
    have rounded : x = parts.scaled := rfl
    exact .inr ⟨⟨_, rfl⟩, by simpa [rounded] using infinite⟩

/-- A whole number of 64 bits is rounded once, whichever way it is read. -/
theorem wholeNumber_standsFor (negative : Bool) (digits : Bytes) :
    StandsFor (wholeNumber negative digits) (Parts.scaled ⟨negative, digits, [], 0⟩) := by
  have real := real_standsFor ⟨negative, digits, [], 0⟩
  unfold wholeNumber
  extract_lets n
  split
  · rename_i below
    subst below
    split
    · rename_i bounds
      have small : n ≤ greatestWhole := Nat.le_trans bounds.2 (by decide)
      have sign : decide (-(n : Int) < 0) = true := by
        rw [decide_eq_true_eq]
        omega
      have nearest : Number.toReal (.negative (-(n : Int))) =
          .ofQuotient true (n * Nat.pow 2 unitPlaces) 1 := by
        rw [Number.toReal, Binary64.ofInt, sign, Int.natAbs_neg, Int.natAbs_natCast]
      have scaled : Parts.scaled ⟨true, digits, [], 0⟩ = -Binary64.ofNat n := by
        rw [Parts.scaled_whole true small, if_pos rfl]
      have same : -Binary64.ofNat n = .ofQuotient true (n * Nat.pow 2 unitPlaces) 1 := by
        rw [Binary64.ofNat, Binary64.ofQuotient, Binary64.neg_ofUnits, Binary64.ofQuotient]
      rw [scaled, same]
      exact .inl ⟨_, rfl, nearest, isFinite_ofWhole true (Nat.le_trans small (by decide))⟩
    · exact real
  · rename_i above
    have positive : negative = false := by simpa using above
    subst positive
    split
    · rename_i small
      have scaled : Parts.scaled ⟨false, digits, [], 0⟩ = .ofNat n := by
        rw [Parts.scaled_whole false small, if_neg Bool.false_ne_true]
      rw [scaled]
      exact .inl ⟨_, rfl, rfl, isFinite_ofWhole false (Nat.le_trans small (by decide))⟩
    · exact real

/-- What is made of a numeral is its number. -/
theorem Numeral.number_standsFor (numeral : Numeral) : StandsFor numeral.number numeral.value := by
  cases found : numeral.exponent with
  | none =>
    have within : numeral.beyond = false := by simp [beyond, found]
    have unraised : numeral.parts.exponent = 0 := by simp [parts, found]
    rw [number, found, value, within, if_neg Bool.false_ne_true]
    dsimp only
    split
    · rename_i none
      have bare : numeral.parts =
          ⟨numeral.negative, (Nat.toDigits 10 numeral.whole).map byte, [], 0⟩ := by
        simp [parts, none, found]
      rw [bare]
      exact wholeNumber_standsFor _ _
    · exact real_standsFor _
  | some exponent =>
    have raised : Parts.mk numeral.parts.negative numeral.parts.whole numeral.parts.fraction
        exponent.value = numeral.parts := by
      simp [parts, found]
    have same : numeral.beyond =
        (decide ((greatestExponent : Int) < exponent.value) && numeral.parts.significand != 0) := by
      simp [beyond, found]
    rw [number, found, value, same]
    dsimp only
    unfold Parts.raised
    rw [raised]
    split
    · exact .inr ⟨⟨_, rfl⟩, rfl⟩
    · exact real_standsFor _

/-! ## Reading -/

private theorem exponentSign_text (exponent : Exponent) (rest : Bytes) :
    exponentSign ((exponent.signText ++ exponent.digits).map byte ++ rest) =
      (exponent.sign == some true, exponent.digits.map byte ++ rest) := by
  obtain ⟨large, sign, digits, nonempty, decimal⟩ := exponent
  cases digits with
  | nil => exact absurd rfl nonempty
  | cons c more =>
    have digit := isDigit_byte (decimal c List.mem_cons_self)
    have minus : byte c ≠ byte '-' := by
      intro same
      rw [same] at digit
      cases digit
    have plus : byte c ≠ byte '+' := by
      intro same
      rw [same] at digit
      cases digit
    rcases sign with _ | _ | _
    · simp [Exponent.signText, exponentSign, minus, plus]
    · rfl
    · rfl

private theorem applyExponent_eq (parts : Parts) (exponent : Exponent) {rest : Bytes}
    (more : rest ≠ []) :
    applyExponent ending parts (exponent.sign == some true) (digitsValue exponent.digits) rest =
      parts.raised exponent := by
  unfold applyExponent Parts.raised
  rw [look_of_ne_nil ending more]
  by_cases below : exponent.sign = some true
  · have value : exponent.value = -(digitsValue exponent.digits : Int) := if_pos below
    have small : ¬ ((greatestExponent : Int) < -(digitsValue exponent.digits : Int)) := by omega
    simp [below, value, small, bind, Except.bind]
  · have value : exponent.value = digitsValue exponent.digits := if_neg below
    simp [below, value, bind, Except.bind]

private theorem readExponent_text (parts : Parts) (exponent : Exponent) (delimits : Delimits d) :
    Makes (readExponent ending parts
      ((exponent.signText ++ exponent.digits).map byte ++ d :: rest)) (parts.raised exponent)
      (d :: rest) := by
  have sign := exponentSign_text exponent (d :: rest)
  have value : decimalValue (exponent.digits.map byte) = digitsValue exponent.digits :=
    decimalValue_map exponent.decimal
  have digits := isDigit_of_mem_map exponent.decimal
  have some : exponent.digits.map byte ≠ [] := by simpa using exponent.nonempty
  obtain ⟨taken, dropped⟩ := takeWhile_append_stop (d :: rest) digits (by
    simpa using delimits.not_digit)
  obtain ⟨b, more, text⟩ := List.exists_cons_of_ne_nil some
  have digit : isDigit b = true := digits b (by simp [text])
  have next : (exponentSign ((exponent.signText ++ exponent.digits).map byte ++ d :: rest)).2 =
      b :: (more ++ d :: rest) := by
    rw [sign, text]
    rfl
  rw [text] at taken dropped value
  obtain ⟨h, read⟩ := readExponent_digits ending parts next dropped
  refine ⟨h, ?_⟩
  rw [List.cons_append] at taken
  rw [read, digit, taken, value, sign, applyExponent_eq parts exponent (List.cons_ne_nil d rest)]
  cases parts.raised exponent <;> rfl

/-- The bytes of an exponent begin with one of its letters. -/
theorem Exponent.text_cons (exponent : Exponent) :
    ∃ letter, exponent.text.map byte = letter :: (exponent.signText ++ exponent.digits).map byte ∧
      (letter = byte 'e' ∨ letter = byte 'E') := by
  obtain ⟨large, sign, digits, nonempty, decimal⟩ := exponent
  cases large with
  | false => exact ⟨byte 'e', rfl, .inl rfl⟩
  | true => exact ⟨byte 'E', rfl, .inr rfl⟩

private theorem readFraction_exponent {negative : Bool} {whole fraction : Bytes}
    (digits : ∀ d ∈ fraction, isDigit d = true) (some : fraction ≠ []) (exponent : Exponent)
    (delimits : Delimits d) :
    Makes (readFraction ending negative whole (fraction ++ (exponent.text.map byte ++ d :: rest)))
      (Parts.raised ⟨negative, whole, fraction, 0⟩ exponent) (d :: rest) := by
  obtain ⟨letter, text, either⟩ := exponent.text_cons
  rw [text, List.cons_append]
  have stop : isDigit letter = false := by rcases either with rfl | rfl <;> decide
  have isLetter : (letter == byte 'e' || letter == byte 'E') = true := by
    rcases either with rfl | rfl <;> decide
  obtain ⟨taken, dropped⟩ := takeWhile_append_stop
    (letter :: ((exponent.signText ++ exponent.digits).map byte ++ d :: rest)) digits (by
      simpa using stop)
  have nonempty : fraction.isEmpty = false := by simpa using some
  rw [readFraction_next ending negative whole dropped]
  simp only [taken, nonempty, isLetter, Bool.false_eq_true, if_false, if_true]
  obtain ⟨h, read⟩ : Makes (readExponent ending ⟨negative, whole, fraction, 0⟩ _) _ _ :=
    readExponent_text ⟨negative, whole, fraction, 0⟩ exponent delimits
  refine ⟨by simp; omega, ?_⟩
  rw [read]
  cases Parts.raised ⟨negative, whole, fraction, 0⟩ exponent <;> rfl

private theorem readAfterWhole_exponent {negative : Bool} {whole : Bytes} (exponent : Exponent)
    (delimits : Delimits d) :
    Makes (readAfterWhole ending negative whole (exponent.text.map byte ++ d :: rest))
      (Parts.raised ⟨negative, whole, [], 0⟩ exponent) (d :: rest) := by
  obtain ⟨letter, text, either⟩ := exponent.text_cons
  rw [text, List.cons_append]
  have point : letter ≠ byte '.' := by rcases either with rfl | rfl <;> decide
  have isLetter : (letter == byte 'e' || letter == byte 'E') = true := by
    rcases either with rfl | rfl <;> decide
  obtain ⟨h, read⟩ : Makes (readExponent ending ⟨negative, whole, [], 0⟩ _) _ (d :: rest) :=
    readExponent_text ⟨negative, whole, [], 0⟩ exponent delimits
  refine ⟨by simp; omega, ?_⟩
  simp only [readAfterWhole, beq_iff_eq, point, if_false, isLetter, if_true, read]
  cases Parts.raised ⟨negative, whole, [], 0⟩ exponent <;> rfl

/-- What follows the digits of a whole part is read with them. -/
theorem readAfterWhole_tail (numeral : Numeral) (delimits : Delimits d) :
    Makes (readAfterWhole ending numeral.negative ((Nat.toDigits 10 numeral.whole).map byte)
      (numeral.tail.map byte ++ d :: rest)) numeral.number (d :: rest) := by
  obtain ⟨negative, whole, fraction, decimal, exponent⟩ := numeral
  have digits := isDigit_of_mem_map decimal
  by_cases bare : fraction = []
  · subst bare
    cases exponent with
    | none => exact readAfterWhole_end delimits
    | some exponent => exact readAfterWhole_exponent exponent delimits
  · have nonempty : fraction.map byte ≠ [] := by simpa using bare
    cases exponent with
    | none =>
      have made : Numeral.number ⟨negative, whole, fraction, decimal, none⟩ =
          Parts.real ⟨negative, (Nat.toDigits 10 whole).map byte, fraction.map byte, 0⟩ := if_neg bare
      have tail : Numeral.tail ⟨negative, whole, fraction, decimal, none⟩ = '.' :: fraction := by
        simp [Numeral.tail, bare]
      rw [made, tail]
      exact readAfterWhole_point (readFraction_end digits nonempty delimits)
    | some exponent =>
      have tail : Numeral.tail ⟨negative, whole, fraction, decimal, some exponent⟩ =
          '.' :: (fraction ++ exponent.text) := by
        simp [Numeral.tail, bare]
      rw [tail, List.map_cons, List.map_append, List.cons_append, List.append_assoc]
      exact readAfterWhole_point (readFraction_exponent digits nonempty exponent delimits)

private theorem Numeral.tail_stops (numeral : Numeral) (delimits : Delimits d) :
    startsWithDigit (numeral.tail.map byte ++ d :: rest) = false := by
  obtain ⟨negative, whole, fraction, decimal, exponent⟩ := numeral
  by_cases bare : fraction = []
  · cases exponent with
    | none =>
      subst bare
      exact delimits.stops
    | some exponent =>
      obtain ⟨letter, text, either⟩ := exponent.text_cons
      simp only [Numeral.tail, bare, if_true, List.nil_append, text, List.cons_append]
      rcases either with rfl | rfl <;> rfl
  · have tail : ∃ more, Numeral.tail ⟨negative, whole, fraction, decimal, exponent⟩ = '.' :: more := by
      simp [Numeral.tail, bare]
    obtain ⟨more, tail⟩ := tail
    rw [tail]
    rfl

/-- A numeral after its sign is read as its number, up to a byte that no number goes on with. -/
theorem readNumber_numeral (numeral : Numeral) (delimits : Delimits d) :
    Makes (readNumber ending numeral.negative
      ((Nat.toDigits 10 numeral.whole ++ numeral.tail).map byte ++ d :: rest)) numeral.number
      (d :: rest) := by
  rw [List.map_append, List.append_assoc]
  exact readNumber_digits (numeral.tail_stops delimits) (readAfterWhole_tail numeral delimits)

private theorem readAnyNumber_numeral {expected : String} {gap : Bytes} (blank : Blank gap)
    (numeral : Numeral) (delimits : Delimits d) :
    Makes (readAnyNumber ending expected (gap ++ (Utf8.encode numeral.text ++ d :: rest)))
      numeral.number (d :: rest) := by
  have makes : Makes (readNumber ending _ _) _ (d :: rest) := readNumber_numeral numeral delimits
  rw [numeral.encode_text, Numeral.text, List.map_append, List.append_assoc]
  cases negative : numeral.negative with
  | true =>
    rw [negative] at makes
    exact readAnyNumber_signed (skipGap_solid blank rfl _) makes
  | false =>
    rw [negative] at makes
    obtain ⟨first, more, text, digit⟩ := toDigits_byte_cons numeral.whole
    rw [List.map_append, text] at makes ⊢
    exact readAnyNumber_unsigned (skipGap_solid blank (isGap_of_isDigit digit) _) digit makes

/-- A numeral is read as its number where that is finite, and refused otherwise. -/
theorem readReal_numeral {gap : Bytes} (blank : Blank gap) (numeral : Numeral) (delimits : Delimits d) :
    (numeral.value.isFinite = true →
      Gives (readReal ending (gap ++ (Utf8.encode numeral.text ++ d :: rest))) numeral.value
        (d :: rest)) ∧
    (numeral.value.isFinite = false →
      ∃ fault, readReal ending (gap ++ (Utf8.encode numeral.text ++ d :: rest)) = .error fault) := by
  have makes : Makes (readAnyNumber ending "f64" _) _ (d :: rest) :=
    readAnyNumber_numeral blank numeral delimits
  rcases numeral.number_standsFor with ⟨number, made, nearest, finite⟩ | ⟨⟨fault, made⟩, infinite⟩
  · rw [made] at makes
    have given := readReal_gives makes.gives
    rw [nearest] at given
    exact ⟨fun _ => given, fun infinite => by simp [finite] at infinite⟩
  · rw [made] at makes
    obtain ⟨h, refused⟩ := makes
    refine ⟨fun finite => by simp [infinite] at finite, fun _ => ⟨fault, ?_⟩⟩
    rw [readReal, refused]
    rfl

/-! ## Values -/

private theorem readAnyNumber_refused {expected : String} {input : Bytes} {b : UInt8}
    (next : skipGap input = b :: rest) (other : ¬ Leads b) : ∃ fault, readAnyNumber ending expected input = .error fault := by
  cases read : readAnyNumber ending expected input with
  | error fault => exact ⟨fault, rfl⟩
  | ok result =>
    have minus : b ≠ byte '-' := fun same => other (.inl same)
    have digit : isDigit b = false := by simpa using fun digit => other (.inr digit)
    unfold readAnyNumber at read
    split at read
    · simp_all
    · rename_i h
      rw [next] at h
      cases h
      simp only [beq_iff_eq, minus, digit, if_false, Bool.false_eq_true] at read
      exact absurd read refuseKind_ne_ok

/-- A value is refused as a real number unless it is a finite one. -/
theorem readReal_value {value : List Char} (valid : IsValue value) {d : UInt8}
    (delimits : Delimits d) (rest : Bytes) :
    (∃ numeral : Numeral, value = numeral.text ∧ numeral.value.isFinite = true) ∨
    ∃ fault, readReal ending (Utf8.encode value ++ d :: rest) = .error fault := by
  obtain ⟨b, more, text, begins⟩ := valid.begins
  by_cases leads : Leads b
  · obtain ⟨numeral, rfl⟩ := begins.number leads
    by_cases finite : numeral.value.isFinite = true
    · exact .inl ⟨numeral, rfl, finite⟩
    · obtain ⟨-, infinite⟩ : _ ∧ (_ → ∃ fault, readReal ending ([] ++ _) = .error fault) :=
        readReal_numeral (List.forall_mem_nil _) numeral delimits
      exact .inr (infinite (by simpa using finite))
  · have next : skipGap (Utf8.encode value ++ d :: rest) = b :: (more ++ d :: rest) := by
      rw [text]
      exact skipGap_cons begins.solid _
    obtain ⟨fault, read⟩ : ∃ fault, readAnyNumber ending "f64" _ = .error fault :=
      readAnyNumber_refused next leads
    exact .inr ⟨fault, by rw [readReal, read]; rfl⟩

theorem isValue_digits (n : Nat) : IsValue (Nat.toDigits 10 n) := by
  have text : Numeral.text ⟨false, n, [], List.forall_mem_nil _, none⟩ = Nat.toDigits 10 n := by
    simp [Numeral.text, Numeral.tail, signChars]
  rw [← text]
  exact .number _

theorem readsAs_whole (ending : Ending) {limit n : Nat} {expected : String} (small : n ≤ limit)
    (fits : limit ≤ greatestWhole) :
    ReadsAs (readWholeUpTo ending limit expected) (Nat.toDigits 10 n) n := by
  intro gap d rest blank delimits
  have text : Utf8.encode (Nat.toDigits 10 n) = textBytes (wholeText n) := by
    rw [textBytes_wholeText, Utf8.encode_ascii fun c member => ascii_of_isDigit
      (isDigit_of_mem_toDigits member)]
    rfl
  rw [text]
  exact readWholeUpTo_gives small (readAnyNumber_whole blank delimits (Nat.le_trans small fits))

theorem readsAs_number (ending : Ending) {numeral : Numeral} (finite : numeral.value.isFinite = true) :
    ReadsAs (readOptionalReal ending) numeral.text (some numeral.value) := by
  intro gap d rest blank delimits
  obtain ⟨b, more, text, leads⟩ := numeral.leads
  have next : skipGap (gap ++ (Utf8.encode numeral.text ++ d :: rest)) = b :: (more ++ d :: rest) := by
    rw [text]
    exact skipGap_solid blank leads.solid _
  exact readOptionalReal_gives next (leads.ne (by decide))
    ((readReal_numeral blank numeral delimits).1 finite)

theorem readsAs_null (ending : Ending) : ReadsAs (readOptionalReal ending) ['n', 'u', 'l', 'l'] none := by
  intro gap d rest blank _
  have text : Utf8.encode ['n', 'u', 'l', 'l'] = byte 'n' :: nullTail := rfl
  have next : skipGap (gap ++ (byte 'n' :: nullTail ++ d :: rest)) = byte 'n' :: (nullTail ++ d :: rest) :=
    skipGap_solid blank rfl _
  rw [text]
  refine ⟨by simp [nullTail]; omega, ?_⟩
  unfold readOptionalReal
  split
  · rename_i h
    rw [next] at h
    cases h
    rfl
  · simp_all

end TermTape.Json

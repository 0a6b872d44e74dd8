import TermTape.Proofs.Json.Reading
import TermTape.Proofs.Number.FixedText
import TermTape.Proofs.Text.Utf8

/-!
# Printed numbers

The digits of a whole number are read as the number (`readAnyNumber_whole`), and the text of a finite
number with six places as the number that its parts are rounded to (`readAnyNumber_fixed`), up to a
byte that no number goes on with.
-/
namespace TermTape

namespace Json

variable {ending : Ending} {expected : String} {negative : Bool} {input rest : Bytes}

/-! ## Digits -/

/-- No number goes on with the byte. -/
structure Delimits (b : UInt8) : Prop where
  not_digit : isDigit b = false
  ne_point : b ≠ byte '.'
  ne_small : b ≠ byte 'e'
  ne_large : b ≠ byte 'E'

private theorem toNat_byte_of_isDigit {c : Char} (digit : c.isDigit = true) :
    (byte c).toNat = c.toNat := by
  have small : c.toNat ≤ 57 := (Char.isDigit_iff_toNat.mp digit).2
  exact Utf8.toNat_byte (by omega)

theorem isDigit_byte {c : Char} (digit : c.isDigit = true) : isDigit (byte c) = true := by
  have bounds : 48 ≤ c.toNat ∧ c.toNat ≤ 57 := Char.isDigit_iff_toNat.mp digit
  simpa [isDigit, UInt8.le_iff_toNat_le, toNat_byte_of_isDigit digit] using bounds

theorem isDigit_of_mem_map {digits : List Char} (h : ∀ c ∈ digits, c.isDigit = true) :
    ∀ b ∈ digits.map byte, isDigit b = true := by
  rw [List.forall_mem_map]
  exact fun c member => isDigit_byte (h c member)

/-- Digits have one value as characters and as bytes. -/
theorem decimalValue_map {digits : List Char} (h : ∀ c ∈ digits, c.isDigit = true) :
    decimalValue (digits.map byte) = digitsValue digits := by
  rw [decimalValue, digitsValue, List.foldl_map]
  generalize 0 = start
  induction digits generalizing start with
  | nil => rfl
  | cons c more ih =>
    obtain ⟨first, others⟩ := List.forall_mem_cons.mp h
    rw [List.foldl_cons, List.foldl_cons, ih others, toNat_byte_of_isDigit first]
    rfl

private theorem textBytes_digits {text : String} {chars : List Char} (same : text.toList = chars)
    (ascii : ∀ c ∈ chars, c.toNat < 128) : textBytes text = chars.map byte := by
  rw [textBytes, same, Utf8.encode_ascii ascii]
  rfl

theorem ascii_of_isDigit {c : Char} (digit : c.isDigit = true) : c.toNat < 128 := by
  have small : c.toNat ≤ 57 := (Char.isDigit_iff_toNat.mp digit).2
  omega

theorem byte_ne_zero {c : Char} (digit : c.isDigit = true) (other : c ≠ '0') : byte c ≠ byte '0' := by
  intro same
  refine other (Char.toNat_inj.mp ?_)
  rw [← toNat_byte_of_isDigit digit, same]
  rfl

section
variable [Rounding]

private theorem readNumber_zero {made : Except Fault Number} {left : Bytes}
    (stop : startsWithDigit rest = false)
    (makes : Makes (readAfterWhole ending negative [byte '0'] rest) made left) :
    Makes (readNumber ending negative (byte '0' :: rest)) made left := by
  obtain ⟨h, makes⟩ := makes
  have digit : isDigit (byte '0') = true := by decide
  refine ⟨Nat.lt_succ_of_le h, ?_⟩
  cases made <;> simp [readNumber, digit, stop, makes, Except.map, bind, Except.bind]

private theorem readNumber_nonzero {made : Except Fault Number} {left more : Bytes} {b : UInt8}
    (digit : isDigit b = true) (other : b ≠ byte '0')
    (makes : Makes (readAfterWhole ending negative (b :: more.takeWhile isDigit)
      (more.dropWhile isDigit)) made left) :
    Makes (readNumber ending negative (b :: more)) made left := by
  obtain ⟨h, makes⟩ := makes
  have shorter := Nat.le_trans h (length_dropWhile_le isDigit more)
  refine ⟨Nat.lt_succ_of_le shorter, ?_⟩
  cases made <;> simp [readNumber, digit, other, makes, Except.map, bind, Except.bind]

/-- The digits of a number are read up to where they stop. -/
theorem readNumber_digits {n : Nat} {made : Except Fault Number} {left : Bytes}
    (stop : startsWithDigit rest = false)
    (makes : Makes (readAfterWhole ending negative ((Nat.toDigits 10 n).map byte) rest) made left) :
    Makes (readNumber ending negative ((Nat.toDigits 10 n).map byte ++ rest)) made left := by
  have digits : ∀ c ∈ Nat.toDigits 10 n, c.isDigit = true := fun _ => isDigit_of_mem_toDigits
  by_cases zero : n = 0
  · subst zero
    exact readNumber_zero stop makes
  · have head := head_toDigits zero
    cases text : Nat.toDigits 10 n with
    | nil => exact absurd text Nat.toDigits_ne_nil
    | cons c more =>
      rw [text] at digits head makes
      obtain ⟨first, others⟩ := List.forall_mem_cons.mp digits
      obtain ⟨taken, dropped⟩ := takeWhile_append_stop rest (isDigit_of_mem_map others) (by
        cases rest with
        | nil => simp
        | cons b _ => simpa [startsWithDigit] using stop)
      have other : c ≠ '0' := by simpa using head
      refine readNumber_nonzero (isDigit_byte first) (byte_ne_zero first other) ?_
      rwa [List.append_eq, taken, dropped]

end

/-! ## Whole numbers -/

theorem Delimits.stops {b : UInt8} (delimits : Delimits b) : startsWithDigit (b :: rest) = false :=
  delimits.not_digit

theorem readAfterWhole_end [Rounding] {digits : Bytes} {b : UInt8} (delimits : Delimits b) :
    Makes (readAfterWhole ending negative digits (b :: rest))
      (wholeNumber negative digits) (b :: rest) := by
  refine ⟨Nat.le_refl _, ?_⟩
  cases made : wholeNumber negative digits <;>
    simp [readAfterWhole, delimits.ne_point, delimits.ne_small, delimits.ne_large, made, Except.map,
      bind, Except.bind]

theorem textBytes_wholeText (n : Nat) : textBytes (wholeText n) = (Nat.toDigits 10 n).map byte :=
  textBytes_digits String.toList_ofList fun _ h => ascii_of_isDigit (isDigit_of_mem_toDigits h)

theorem isGap_of_isDigit {b : UInt8} (digit : isDigit b = true) : isGap b = false := by
  simp only [isDigit, Bool.and_eq_true, decide_eq_true_eq, UInt8.le_iff_toNat_le] at digit
  simp only [isGap, Bool.or_eq_false_iff, beq_eq_false_iff_ne]
  refine ⟨⟨⟨?_, ?_⟩, ?_⟩, ?_⟩ <;> rintro rfl <;> simp at digit

theorem toDigits_byte_cons (n : Nat) :
    ∃ b more, (Nat.toDigits 10 n).map byte = b :: more ∧ isDigit b = true := by
  cases text : Nat.toDigits 10 n with
  | nil => exact absurd text Nat.toDigits_ne_nil
  | cons c more =>
    exact ⟨byte c, more.map byte, rfl, isDigit_byte (isDigit_of_mem_toDigits (n := n) (by simp [text]))⟩

/-- A printed whole number is read as the number. -/
theorem readAnyNumber_whole [Rounding] {n : Nat} {b : UInt8} {gap : Bytes} (blank : Blank gap)
    (delimits : Delimits b) (small : n ≤ greatestWhole) :
    Gives (readAnyNumber ending expected (gap ++ (textBytes (wholeText n) ++ b :: rest)))
      (.whole n) (b :: rest) := by
  have value : decimalValue ((Nat.toDigits 10 n).map byte) = n := by
    rw [decimalValue_map fun _ => isDigit_of_mem_toDigits, digitsValue_toDigits]
  have made : wholeNumber false ((Nat.toDigits 10 n).map byte) = .ok (.whole n) := by
    simp [wholeNumber, value, small]
  have makes : Makes (readNumber ending false ((Nat.toDigits 10 n).map byte ++ b :: rest)) _ (b :: rest) :=
    readNumber_digits delimits.stops (readAfterWhole_end delimits)
  rw [made] at makes
  have given := makes.gives
  obtain ⟨first, more, text, digit⟩ := toDigits_byte_cons n
  rw [textBytes_wholeText, text]
  rw [text] at given
  have next : skipGap (gap ++ (first :: more ++ b :: rest)) = first :: (more ++ b :: rest) := by
    rw [skipGap_append blank]
    exact skipGap_cons (isGap_of_isDigit digit) _
  exact (readAnyNumber_unsigned next digit given.makes).gives

/-! ## Numbers with six places -/

section
variable [Rounding]

theorem readFraction_end {whole fraction : Bytes} {b : UInt8}
    (digits : ∀ d ∈ fraction, isDigit d = true) (some : fraction ≠ []) (delimits : Delimits b) :
    Makes (readFraction ending negative whole (fraction ++ b :: rest))
      (Parts.real ⟨negative, whole, fraction, 0⟩) (b :: rest) := by
  obtain ⟨taken, dropped⟩ := takeWhile_append_stop (b :: rest) digits (by
    simpa using delimits.not_digit)
  refine ⟨by simp, ?_⟩
  have nonempty : fraction.isEmpty = false := by simpa using some
  have look : ending.look ((fraction ++ b :: rest).dropWhile isDigit) = .ok () := by
    rw [dropped]
    rfl
  simp only [readFraction, taken, look, nonempty, bind, Except.bind]
  split
  · simp_all
  · rename_i h
    rw [dropped] at h
    cases h
    cases Parts.real ⟨negative, whole, fraction, 0⟩ <;>
      simp [delimits.ne_small, delimits.ne_large, Except.map]

theorem readAfterWhole_point {made : Except Fault Number} {whole left : Bytes}
    (makes : Makes (readFraction ending negative whole rest) made left) :
    Makes (readAfterWhole ending negative whole (byte '.' :: rest)) made left := by
  obtain ⟨h, makes⟩ := makes
  refine ⟨Nat.le_succ_of_le h, ?_⟩
  cases made <;> simp [readAfterWhole, makes, Except.map, bind, Except.bind]

end

/-- The parts of some millionths with their sign: the digits of the whole part, and six more. -/
def sixParts (negative : Bool) (millionths : Nat) : Parts :=
  ⟨negative, (Nat.toDigits 10 (millionths / million)).map byte,
    (places 10 6 (millionths % million)).map byte, 0⟩

theorem map_sixDigits (parts : Nat) :
    (sixDigits parts).map byte = (Nat.toDigits 10 (parts / million)).map byte ++
      byte '.' :: (places 10 6 (parts % million)).map byte := by
  rw [sixDigits, List.map_append, List.map_cons]

/-- Digits, a point and six digits are read as the number of their parts. -/
theorem readNumber_six [Rounding] (parts : Nat) {b : UInt8} (delimits : Delimits b) :
    Makes (readNumber ending negative ((sixDigits parts).map byte ++ b :: rest))
      (sixParts negative parts).real (b :: rest) := by
  have fraction : ∀ c ∈ places 10 6 (parts % million), c.isDigit = true :=
    fun _ => isDigit_of_mem_places
  have some : (places 10 6 (parts % million)).map byte ≠ [] := by
    intro none
    have length := congrArg List.length none
    rw [List.length_map, length_places] at length
    cases length
  have stop : startsWithDigit (byte '.' ::
      ((places 10 6 (parts % million)).map byte ++ b :: rest)) = false := rfl
  rw [map_sixDigits, List.append_assoc]
  exact readNumber_digits stop
    (readAfterWhole_point (readFraction_end (isDigit_of_mem_map fraction) some delimits))

theorem map_signChars_true : (signChars true).map byte = [byte '-'] := rfl

theorem map_signChars_false : (signChars false).map byte = [] := rfl

theorem textBytes_fixed (units : Nat) (h : Representable units) :
    textBytes ((Binary64.finite negative units h).fixed 6) =
      (signChars negative).map byte ++ (sixDigits (millionths units)).map byte := by
  rw [← List.map_append]
  refine textBytes_digits (fixed_finite negative units h) fun c member => ?_
  rcases List.mem_append.mp member with sign | later
  · cases negative <;> simp_all [signChars]
  rcases List.mem_append.mp later with front | back
  · exact ascii_of_isDigit (isDigit_of_mem_toDigits front)
  rcases List.mem_cons.mp back with rfl | places
  · decide
  · exact ascii_of_isDigit (isDigit_of_mem_places places)

/-- A number begins with its sign or a digit. -/
def Leads (b : UInt8) : Prop := b = byte '-' ∨ isDigit b = true

theorem Leads.solid {b : UInt8} (leads : Leads b) : isGap b = false := by
  rcases leads with rfl | digit
  · rfl
  · exact isGap_of_isDigit digit

theorem Leads.ne {a b : UInt8} (leads : Leads a) (other : ¬ Leads b) : a ≠ b := by
  rintro rfl
  exact other leads

instance (b : UInt8) : Decidable (Leads b) := inferInstanceAs (Decidable (_ ∨ _))

theorem textBytes_fixed_cons {x : Binary64} (finite : x.isFinite = true) :
    ∃ b more, textBytes (x.fixed 6) = b :: more ∧ Leads b := by
  cases x with
  | nan => cases finite
  | infinite negative => cases finite
  | finite negative units h =>
    rw [textBytes_fixed]
    cases negative with
    | true =>
      rw [map_signChars_true, List.singleton_append]
      exact ⟨byte '-', _, rfl, .inl rfl⟩
    | false =>
      obtain ⟨first, more, text, digit⟩ := toDigits_byte_cons (millionths units / million)
      rw [map_signChars_false, List.nil_append, map_sixDigits, text, List.cons_append]
      exact ⟨first, _, rfl, .inr digit⟩

end Json

/-! ## Numbers that are read back -/

namespace Binary64

/-- The parts of the text of a finite number with six places. -/
def textParts : Binary64 → Json.Parts
  | .finite negative units _ => Json.sixParts negative (millionths units)
  | _ => ⟨false, [], [], 0⟩

/-- A number as it is read from its text with six places. -/
def readBack [Json.Rounding] (x : Binary64) : Binary64 := Json.Rounding.round x.textParts

/-- The text of a number with six places is read as the number nearest to it. -/
def ReadsNearest [Json.Rounding] (x : Binary64) : Prop :=
  Json.Rounding.round x.textParts = x.textParts.nearest

instance [Json.Rounding] (x : Binary64) : Decidable x.ReadsNearest :=
  inferInstanceAs (Decidable (_ = _))

end Binary64

namespace Json

theorem significand_sixParts (negative : Bool) (parts : Nat) :
    (sixParts negative parts).significand = parts := by
  have whole : ∀ c ∈ Nat.toDigits 10 (parts / million), c.isDigit = true :=
    fun _ => isDigit_of_mem_toDigits
  have fraction : ∀ c ∈ places 10 6 (parts % million), c.isDigit = true :=
    fun _ => isDigit_of_mem_places
  rw [Parts.significand, sixParts, ← List.map_append,
    decimalValue_map (List.forall_mem_append.mpr ⟨whole, fraction⟩), digitsValue_six]

theorem power_sixParts (negative : Bool) (parts : Nat) : (sixParts negative parts).power = -6 := by
  rw [Parts.power, sixParts, List.length_map, length_places]
  rfl

/-- The number nearest to some millionths is the quotient rounded once. -/
theorem nearest_sixParts (negative : Bool) (parts : Nat) :
    (sixParts negative parts).nearest = .ofUnits negative (unitsOf parts) := by
  rw [Parts.nearest, significand_sixParts, power_sixParts, ofDecimal_six, sixParts]

private theorem nearest_textParts {x : Binary64} (finite : x.isFinite = true) :
    x.textParts.nearest = x.sixPlaces := by
  cases x with
  | nan => cases finite
  | infinite negative => cases finite
  | finite negative units h =>
    rw [Binary64.textParts, nearest_sixParts, Binary64.sixPlaces, reread]

theorem readBack_of_readsNearest [Rounding] {x : Binary64} (finite : x.isFinite = true)
    (nearest : x.ReadsNearest) : x.readBack = x.sixPlaces :=
  nearest.trans (nearest_textParts finite)

/-- The text of a finite number with six places is read as what its parts are rounded to, when this
is in range. -/
theorem readAnyNumber_fixed [Rounding] {x : Binary64} {b : UInt8} {gap : Bytes}
    (finite : x.isFinite = true) (inRange : x.readBack.isFinite = true) (blank : Blank gap)
    (delimits : Delimits b) :
    Gives (readAnyNumber ending expected (gap ++ (textBytes (x.fixed 6) ++ b :: rest)))
      (.real x.readBack) (b :: rest) := by
  cases x with
  | nan => cases finite
  | infinite negative => cases finite
  | finite negative units h =>
    have real : (sixParts negative (millionths units)).real =
        .ok (.real (Binary64.finite negative units h).readBack) := if_pos inRange
    have makes : Makes (readNumber ending negative _) _ (b :: rest) :=
      readNumber_six (millionths units) delimits
    rw [real] at makes
    rw [textBytes_fixed, List.append_assoc]
    cases negative with
    | true =>
      refine (readAnyNumber_signed ?_ makes).gives
      rw [skipGap_append blank, map_signChars_true, List.singleton_append]
      exact skipGap_cons (by decide) _
    | false =>
      obtain ⟨first, more, text, digit⟩ := toDigits_byte_cons (millionths units / million)
      rw [map_sixDigits, text] at makes ⊢
      refine (readAnyNumber_unsigned ?_ digit makes).gives
      rw [skipGap_append blank, map_signChars_false, List.nil_append]
      exact skipGap_cons (isGap_of_isDigit digit) _

end Json
end TermTape

import TermTape.Json.Rounding
import TermTape.Json.Source

/-!
# JSON numbers

A number is whole, or below zero, or real: it is real when it has a fraction or an exponent, when it
is the negative zero, or when it is past 64 bits. A real number is rounded from its digits and its
exponent, and is out of range when that gives infinity.
-/
namespace TermTape.Json

/-- The greatest whole number below zero of 64 bits, without its sign. -/
def greatestNegative : Nat := 0x8000000000000000

/-- The greatest exponent that is read as it is written. -/
def greatestExponent : Nat := 0x7fffffff

theorem length_dropWhile_le (p : UInt8 → Bool) (bytes : Bytes) :
    (bytes.dropWhile p).length ≤ bytes.length :=
  (List.dropWhile_sublist _).length_le

/-- The sign of an exponent and the input after it. -/
def exponentSign : Bytes → Bool × Bytes
  | b :: rest =>
    if b == byte '-' then (true, rest)
    else if b == byte '+' then (false, rest)
    else (false, b :: rest)
  | [] => (false, [])

theorem length_exponentSign_le (input : Bytes) : (exponentSign input).2.length ≤ input.length := by
  unfold exponentSign
  split
  · split
    · simp
    · split <;> simp
  · simp

variable [Rounding]

/-- The real number of its parts. -/
def Parts.real (parts : Parts) : Except Fault Number :=
  let x := Rounding.round parts
  if x.isFinite then .ok (.real x) else breach .numberRange

/-- The number of digits without a fraction or an exponent. -/
def wholeNumber (negative : Bool) (digits : Bytes) : Except Fault Number :=
  let n := decimalValue digits
  if negative then
    if 0 < n ∧ n ≤ greatestNegative then .ok (.negative (-(n : Int)))
    else Parts.real ⟨true, digits, [], 0⟩
  else if n ≤ greatestWhole then .ok (.whole n) else Parts.real ⟨false, digits, [], 0⟩

/-- The number that an exponent makes of the parts before it. An exponent past the greatest one is
decided by its sign alone. -/
def applyExponent (ending : Ending) (parts : Parts) (below : Bool) (exponent : Nat)
    (rest : Bytes) : Except Fault Number := do
  if !below && greatestExponent < exponent && parts.significand != 0 then breach .numberRange
  else
    ending.look rest
    let signed : Int := if below then -(exponent : Int) else exponent
    Parts.real { parts with exponent := signed }

/-- The exponent after its letter. -/
def readExponent (ending : Ending) (parts : Parts) (input : Bytes) :
    Except Fault (Number × AtMost input) := do
  ending.look input
  match h : (exponentSign input).2 with
  | [] => ending.atEnd .endInValue
  | b :: more =>
    if !isDigit b then breach .badNumber
    else
      let number ← applyExponent ending parts (exponentSign input).1
        (decimalValue ((b :: more).takeWhile isDigit)) ((b :: more).dropWhile isDigit)
      .ok (number, ⟨(b :: more).dropWhile isDigit, by
        have h₁ := length_exponentSign_le input
        have h₂ := length_dropWhile_le isDigit (b :: more)
        rw [h] at h₁
        omega⟩)

/-- The digits after a point, and the number they make of the digits before it. -/
def readFraction (ending : Ending) (negative : Bool) (whole : Bytes) (input : Bytes) :
    Except Fault (Number × AtMost input) := do
  let fraction := input.takeWhile isDigit
  let parts : Parts := ⟨negative, whole, fraction, 0⟩
  ending.look (input.dropWhile isDigit)
  match h : input.dropWhile isDigit with
  | [] =>
    if fraction.isEmpty then ending.atEnd .endInValue
    else
      let number ← parts.real
      .ok (number, ⟨[], by simp⟩)
  | b :: rest =>
    have length := length_dropWhile_le isDigit input
    if fraction.isEmpty then breach .badNumber
    else if b == byte 'e' || b == byte 'E' then
      let (number, ⟨rest₂, h₂⟩) ← readExponent ending parts rest
      .ok (number, ⟨rest₂, by rw [h] at length; simp at length; omega⟩)
    else
      let number ← parts.real
      .ok (number, ⟨b :: rest, by rw [h] at length; exact length⟩)

/-- The number that goes on after the digits of its whole part. -/
def readAfterWhole (ending : Ending) (negative : Bool) (whole : Bytes) :
    (input : Bytes) → Except Fault (Number × AtMost input)
  | [] => do
    ending.look []
    let number ← wholeNumber negative whole
    .ok (number, ⟨[], by simp⟩)
  | b :: rest => do
    if b == byte '.' then
      let (number, ⟨rest₂, h⟩) ← readFraction ending negative whole rest
      .ok (number, ⟨rest₂, length_le_cons h⟩)
    else if b == byte 'e' || b == byte 'E' then
      let (number, ⟨rest₂, h⟩) ← readExponent ending ⟨negative, whole, [], 0⟩ rest
      .ok (number, ⟨rest₂, length_le_cons h⟩)
    else
      let number ← wholeNumber negative whole
      .ok (number, ⟨b :: rest, by simp⟩)

/-- The first byte is a decimal digit. -/
def startsWithDigit : Bytes → Bool
  | b :: _ => isDigit b
  | [] => false

/-- The number after its sign; a zero that leads other digits is refused. -/
def readNumber (ending : Ending) (negative : Bool) : (input : Bytes) →
    Except Fault (Number × Shorter input)
  | [] => ending.atEnd .endInValue
  | b :: rest => do
    if !isDigit b then breach .badNumber
    else if b == byte '0' then
      if startsWithDigit rest then breach .badNumber
      else
        let (number, ⟨rest₂, h⟩) ← readAfterWhole ending negative [b] rest
        .ok (number, ⟨rest₂, by simp; omega⟩)
    else
      let (number, ⟨rest₂, h⟩) ←
        readAfterWhole ending negative (b :: rest.takeWhile isDigit) (rest.dropWhile isDigit)
      .ok (number, ⟨rest₂, by
        have := length_dropWhile_le isDigit rest
        simp
        omega⟩)

end TermTape.Json

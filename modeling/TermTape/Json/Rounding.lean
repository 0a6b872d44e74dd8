import TermTape.Number.Binary64
import TermTape.Text.Utf8

/-!
# Rounding of JSON numbers

A number with a fraction or an exponent, or past 64 bits, is rounded from its digits and its exponent
of ten (`Rounding`). The rounding of the readers (`Parts.scaled`) is not always to the nearest number
(`Parts.nearest`): it takes the first digits that 64 bits hold as a whole number and multiplies or
divides this by a power of ten, and each of these steps is rounded on its own.
-/
namespace TermTape

namespace Binary64

/-- The greatest exponent of a power of ten that is finite. -/
def greatestTen : Nat := 308

/-- The number nearest to a power of ten. -/
def tenPower (n : Nat) : Binary64 := .ofNat (Nat.pow 10 n)

/-- Divided so many times by the greatest power of ten; a zero is left as it is. -/
def lowered (x : Binary64) : Nat → Binary64
  | 0 => x
  | times + 1 => if x = zero false then x else lowered (x / tenPower greatestTen) times

/-- Divided by a power of ten, the part of it that is past the greatest one first. -/
def divideTens (x : Binary64) (n : Nat) : Binary64 :=
  let times := (n - 1) / greatestTen
  lowered x times / tenPower (n - greatestTen * times)

/-- Multiplied or divided by a power of ten. What is not zero is infinite when the power is. -/
def scale (x : Binary64) (exponent : Int) : Binary64 :=
  if exponent < 0 then x.divideTens exponent.natAbs
  else if exponent ≤ greatestTen then x * tenPower exponent.natAbs
  else if x = zero false then x
  else .infinite false

end Binary64

namespace Json

/-! ## Digits -/

/-- The value of decimal digits. -/
def decimalValue (digits : Bytes) : Nat :=
  digits.foldl (fun n b => 10 * n + (b.toNat - 0x30)) 0

/-- The greatest whole number of 64 bits. -/
def greatestWhole : Nat := 0xffffffffffffffff

/-- Digits after a whole number, as far as 64 bits hold it, and how many of them are left. -/
def gather (n : Nat) : Bytes → Nat × Nat
  | [] => (n, 0)
  | b :: rest =>
    if 10 * n + (b.toNat - 0x30) ≤ greatestWhole then gather (10 * n + (b.toNat - 0x30)) rest
    else (n, (b :: rest).length)

/-- The parts of a number: its sign, the digits before and after its point, and its exponent of ten. -/
structure Parts where
  negative : Bool
  whole : Bytes
  fraction : Bytes
  exponent : Int

namespace Parts

variable (parts : Parts)

/-- All digits as a whole number. -/
def significand : Nat := decimalValue (parts.whole ++ parts.fraction)

/-- The exponent of ten of the last digit. -/
def power : Int := parts.exponent - parts.fraction.length

/-- The number nearest to the decimal of the parts. -/
def nearest : Binary64 := .ofDecimal parts.negative parts.significand parts.power

/-! ## The rounding of the readers -/

/-- The first digits that 64 bits hold, as a whole number with the exponent of ten of its last digit.
The digits of a fraction are tried again after a whole part that was cut short. -/
def leading : Nat × Int :=
  let whole := gather 0 parts.whole
  let digits := gather whole.1 parts.fraction
  (digits.1, whole.2 + digits.2 + parts.power)

/-- The first digits, scaled by their exponent. -/
def scaled : Binary64 :=
  let x := (Binary64.ofNat parts.leading.1).scale parts.leading.2
  if parts.negative then -x else x

end Parts

/-- What is made of the parts of a number; an infinite one is out of range. -/
class Rounding where
  round : Parts → Binary64

/-- The rounding of the readers. -/
instance : Rounding := ⟨Parts.scaled⟩

end Json
end TermTape

/-!
# Binary64 numbers

A finite number is a sign and a whole count of units, the unit being the least positive number
`2^(-1074)`. A count is representable when it has at most 53 significant bits and lies below the
overflow threshold, so equal numbers of one sign are equal values. Every operation forms its exact
result as a quotient of whole numbers and rounds it once, to the nearest representable count and a
tie to the even one (`nearestUnits`).
-/
namespace TermTape

/-- The unit of the finite numbers is `2^(-unitPlaces)`. -/
def unitPlaces : Nat := 1074

/-- A count of units that a finite number holds: no more than 53 significant bits, and a leading
bit that keeps the value below `2^1024`. -/
def Representable (units : Nat) : Prop :=
  Nat.pow 2 (units.log2 - 52) ∣ units ∧ units.log2 < 1024 + unitPlaces

instance (units : Nat) : Decidable (Representable units) :=
  inferInstanceAs (Decidable (_ ∧ _))

/-- A binary64 number; one value stands for every not-a-number. -/
inductive Binary64 where
  | nan
  | infinite (negative : Bool)
  | finite (negative : Bool) (units : Nat) (representable : Representable units)
  deriving DecidableEq

/-- A quotient rounded to the nearest whole number, a tie to the even one. -/
def divNearest (num den : Nat) : Nat :=
  let quotient := num / den
  let remainder := num % den
  if den < 2 * remainder ∨ (2 * remainder = den ∧ quotient % 2 = 1) then quotient + 1
  else quotient

/-- The count nearest to a quotient among those of 53 significant bits, a tie to the even one. -/
def nearestUnits (num den : Nat) : Nat :=
  let step := Nat.pow 2 ((num / den).log2 - 52)
  divNearest num (den * step) * step

namespace Binary64

/-! ## Construction -/

/-- The number of a count of units, infinite past the overflow threshold. -/
def ofUnits (negative : Bool) (units : Nat) : Binary64 :=
  if h : Representable units then .finite negative units h else .infinite negative

/-- The number nearest to a quotient of units. -/
def ofQuotient (negative : Bool) (num den : Nat) : Binary64 :=
  ofUnits negative (nearestUnits num den)

/-- Zero with a sign. -/
def zero (negative : Bool) : Binary64 :=
  .finite negative 0 (by decide)

/-- The number nearest to a whole number. -/
def ofNat (n : Nat) : Binary64 :=
  ofQuotient false (n * Nat.pow 2 unitPlaces) 1

/-- The number nearest to a signed whole number; zero is positive. -/
def ofInt (i : Int) : Binary64 :=
  ofQuotient (i < 0) (i.natAbs * Nat.pow 2 unitPlaces) 1

/-- The number nearest to `digits * 10^exponent` with a sign. Exponents beyond every finite number
are decided without forming the power. -/
def ofDecimal (negative : Bool) (digits : Nat) (exponent : Int) : Binary64 :=
  if digits = 0 then zero negative
  else if 400 < exponent then .infinite negative
  else if digits.log2 + 1 + exponent < -400 then zero negative
  else
    ofQuotient negative (digits * Nat.pow 10 exponent.toNat * Nat.pow 2 unitPlaces)
      (Nat.pow 10 (-exponent).toNat)

/-! ## Order and arithmetic -/

/-- Neither infinite nor not-a-number. -/
def isFinite : Binary64 → Bool
  | .finite .. => true
  | _ => false

/-- Below zero; neither zero is. -/
def isBelowZero : Binary64 → Bool
  | .nan => false
  | .infinite negative => negative
  | .finite negative units _ => negative && units != 0

/-- Above zero; neither zero is. -/
def isAboveZero : Binary64 → Bool
  | .nan => false
  | .infinite negative => !negative
  | .finite negative units _ => !negative && units != 0

/-- The number with its sign turned. -/
def neg : Binary64 → Binary64
  | .nan => .nan
  | .infinite negative => .infinite (!negative)
  | .finite negative units h => .finite (!negative) units h

/-- The units of a finite number with the sign of the number. -/
def signedUnits (negative : Bool) (units : Nat) : Int :=
  if negative then -(units : Int) else units

/-- The sum rounded to the nearest number. Two zeros of one sign keep it; any other sum that is
exactly zero is positive. -/
def add : Binary64 → Binary64 → Binary64
  | .nan, _ | _, .nan => .nan
  | .infinite a, .infinite b => if a == b then .infinite a else .nan
  | .infinite a, .finite .. => .infinite a
  | .finite .., .infinite b => .infinite b
  | .finite a m _, .finite b n _ =>
    let sum := signedUnits a m + signedUnits b n
    if sum = 0 then zero (a && b) else ofQuotient (sum < 0) sum.natAbs 1

/-- The quotient rounded to the nearest number. -/
def div : Binary64 → Binary64 → Binary64
  | .nan, _ | _, .nan => .nan
  | .infinite _, .infinite _ => .nan
  | .infinite a, .finite b _ _ => .infinite (a != b)
  | .finite a _ _, .infinite b => zero (a != b)
  | .finite a m _, .finite b n _ =>
    if n = 0 then (if m = 0 then .nan else .infinite (a != b))
    else ofQuotient (a != b) (m * Nat.pow 2 unitPlaces) n

/-- The product rounded to the nearest number. -/
def mul : Binary64 → Binary64 → Binary64
  | .nan, _ | _, .nan => .nan
  | .infinite a, .infinite b => .infinite (a != b)
  | .infinite a, .finite b n _ | .finite b n _, .infinite a =>
    if n = 0 then .nan else .infinite (a != b)
  | .finite a m _, .finite b n _ => ofQuotient (a != b) (m * n) (Nat.pow 2 unitPlaces)

instance : Add Binary64 := ⟨add⟩
instance : Mul Binary64 := ⟨mul⟩
instance : Div Binary64 := ⟨div⟩
instance : Neg Binary64 := ⟨neg⟩

/-- The sum of a list from left to right; the sum of no numbers is the negative zero, which leaves
every number as it is when added. -/
def sum (numbers : List Binary64) : Binary64 :=
  numbers.foldl (· + ·) (zero true)

/-! ## Interchange form -/

/-- The magnitude field of a count: the exponent above the 52 stored places of the significand. -/
def magnitudeBits (units : Nat) : Nat :=
  let exponent := units.log2 - 52
  exponent * Nat.pow 2 52 + units / Nat.pow 2 exponent

/-- The 64 bits of a number in the interchange format; not-a-number is the quiet one. -/
def toBits : Binary64 → Nat
  | .nan => 0x7ff8000000000000
  | .infinite negative => (if negative then Nat.pow 2 63 else 0) + 0x7ff0000000000000
  | .finite negative units _ => (if negative then Nat.pow 2 63 else 0) + magnitudeBits units

end Binary64
end TermTape

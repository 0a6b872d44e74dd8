import TermTape.Number.Binary64

/-!
# Shortest decimals

The shortest decimal of a number is the one with the fewest digits among those that round to the
number, and the nearest to it among these; of two that are as near, a rule of ties (`Tie`) takes
one. The decimals that round to a number fill an interval
between its two neighbours (`rounds`), whose ends belong to it when the significand is even. The
search goes from coarse decimal grids to fine ones; a grid that meets the interval at all meets it
in one of the two grid points next to the number.
-/
namespace TermTape

/-- A positive decimal `digits * 10^exponent`. -/
structure Decimal where
  digits : Nat
  exponent : Int
  deriving DecidableEq

/-- Which of two decimals stands for a number that is as far from both. -/
inductive Tie where
  /-- The one whose last digit is even. -/
  | toEven
  /-- The greater one. -/
  | up
  deriving DecidableEq, Repr

/-- The rule takes the digits above `below`, of which the number is as far. -/
def Tie.takesAbove (tie : Tie) (below : Nat) : Bool :=
  match tie with
  | .toEven => below % 2 == 1
  | .up => true

namespace Decimal

/-- A quarter of a unit separates the ends of the rounding intervals. -/
def quarterPlaces : Nat := unitPlaces + 2

/-- The least end of the interval that rounds to a count, in quarters of a unit. The interval is
shorter below a power of two, where the numbers below are closer. -/
def lowEnd (units : Nat) : Nat :=
  let step := Nat.pow 2 (units.log2 - 52)
  if units = Nat.pow 2 units.log2 ∧ 52 < units.log2 then 4 * units - step
  else 4 * units - 2 * step

/-- The greatest end of the interval that rounds to a count, in quarters of a unit. -/
def highEnd (units : Nat) : Nat :=
  4 * units + 2 * Nat.pow 2 (units.log2 - 52)

/-- The ends round to the count when its significand is even. -/
def endsRound (units : Nat) : Bool :=
  units / Nat.pow 2 (units.log2 - 52) % 2 == 0

/-- The point `digits` of the grid `10^exponent` rounds to the count. -/
def rounds (units digits : Nat) (exponent : Int) : Bool :=
  let point := digits * Nat.pow 10 exponent.toNat * Nat.pow 2 quarterPlaces
  let scale := Nat.pow 10 (-exponent).toNat
  let low := lowEnd units * scale
  let high := highEnd units * scale
  if endsRound units then low ≤ point && point ≤ high else low < point && point < high

/-- The point of the grid `10^exponent` below or at the count. -/
def floorPoint (units : Nat) (exponent : Int) : Nat :=
  units * Nat.pow 10 (-exponent).toNat / (Nat.pow 10 exponent.toNat * Nat.pow 2 unitPlaces)

/-- The point above is nearer to the count than the point below, or taken when both are as far. -/
def prefersAbove (tie : Tie) (units below : Nat) (exponent : Int) : Bool :=
  let value := 2 * units * Nat.pow 10 (-exponent).toNat
  let middle := (2 * below + 1) * Nat.pow 10 exponent.toNat * Nat.pow 2 unitPlaces
  middle < value || (middle == value && tie.takesAbove below)

/-- The point of the grid `10^exponent` that rounds to the count and is nearest to it. -/
def onGrid? (tie : Tie) (units : Nat) (exponent : Int) : Option Decimal :=
  let below := floorPoint units exponent
  match rounds units below exponent, rounds units (below + 1) exponent with
  | true, true =>
    some ⟨if prefersAbove tie units below exponent then below + 1 else below, exponent⟩
  | true, false => some ⟨below, exponent⟩
  | false, true => some ⟨below + 1, exponent⟩
  | false, false => none

/-- An exponent of ten above the leading digit of the count. -/
def topExponent (units : Nat) : Int :=
  ((units.log2 : Int) - unitPlaces) * 30103 / 100000 + 2

/-- The shortest decimal of a positive count. Seventeen digits tell all counts apart, so one of the
grids of the search has a point. -/
def shortest (tie : Tie) (units : Nat) : Decimal :=
  let grids := (List.range 21).map fun (i : Nat) => topExponent units - (i : Int)
  (grids.findSome? (onGrid? tie units)).getD ⟨0, 0⟩

end Decimal
end TermTape

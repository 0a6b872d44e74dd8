import TermTape.Number.Shortest

/-!
# Decimal texts of numbers

Three texts of a number: its shortest decimal with every place written out (`plain`), in which ties
go up; its shortest decimal as a data format shows it, with an exponent outside a range of sizes
(`exponential`), in which ties go to the even digit; and a fixed count of places (`fixed`), which
rounds the exact value and sends a tie to the even digit too.
-/
namespace TermTape

/-- The decimal digits of a whole number. -/
def wholeText (n : Nat) : String :=
  String.ofList (Nat.toDigits 10 n)

/-- The decimal digits of a signed whole number, a minus sign before those below zero. -/
def signedText (i : Int) : String :=
  if i < 0 then "-" ++ wholeText i.natAbs else wholeText i.natAbs

/-- The digits of `n`, zeros before them up to a width. -/
def paddedText (width n : Nat) : String :=
  let digits := Nat.toDigits 10 n
  String.ofList (List.replicate (width - digits.length) '0' ++ digits)

namespace Decimal

/-- Every place of a decimal, without a point when it is whole. -/
def positional (d : Decimal) : String :=
  let digits := Nat.toDigits 10 d.digits
  let places := (-d.exponent).toNat
  if places = 0 then String.ofList (digits ++ List.replicate d.exponent.toNat '0')
  else if places < digits.length then
    let whole := digits.length - places
    String.ofList (digits.take whole ++ '.' :: digits.drop whole)
  else "0." ++ String.ofList (List.replicate (places - digits.length) '0' ++ digits)

/-- The exponent of the leading digit. -/
def leadExponent (d : Decimal) : Int :=
  d.exponent + (Nat.toDigits 10 d.digits).length - 1

/-- The leading digit, the others after a point, and an exponent with its sign. -/
def scientific (d : Decimal) : String :=
  let mantissa := match Nat.toDigits 10 d.digits with
    | lead :: second :: rest => String.ofList (lead :: '.' :: second :: rest)
    | digits => String.ofList digits
  let exponent := d.leadExponent
  mantissa ++ (if exponent < 0 then "e-" else "e+") ++ wholeText exponent.natAbs

end Decimal

namespace Binary64

/-- A minus sign before a negative number, zero included. -/
def signText (negative : Bool) : String :=
  if negative then "-" else ""

/-- The shortest decimal with every place written out and no point in a whole number. -/
def plain : Binary64 → String
  | .nan => "NaN"
  | .infinite negative => signText negative ++ "inf"
  | .finite negative units _ =>
    signText negative ++ (if units = 0 then "0" else (Decimal.shortest .up units).positional)

/-- The shortest decimal, with an exponent when the leading digit stands below the fifth place after
the point or above the sixteenth before it, and otherwise with a point. -/
def exponential : Binary64 → String
  | .nan => "NaN"
  | .infinite negative => signText negative ++ "inf"
  | .finite negative units _ =>
    if units = 0 then signText negative ++ "0.0"
    else
      let d := Decimal.shortest .toEven units
      signText negative ++
        if d.leadExponent < -5 ∨ 15 < d.leadExponent then d.scientific
        else if d.exponent < 0 then d.positional
        else d.positional ++ ".0"

/-- Rounded to a count of places after the point. -/
def fixed (places : Nat) : Binary64 → String
  | .nan => "NaN"
  | .infinite negative => signText negative ++ "inf"
  | .finite negative units _ =>
    let scale := Nat.pow 10 places
    let scaled := divNearest (units * scale) (Nat.pow 2 unitPlaces)
    signText negative ++ wholeText (scaled / scale) ++
      if places = 0 then "" else "." ++ paddedText places (scaled % scale)

end Binary64
end TermTape

import TermTape.Number.Binary64

/-!
# Durations

A duration is a count of nanoseconds. Seconds as a number give a duration rounded to the nearest
nanosecond, a tie to the even one, if they are neither negative nor past the longest duration.
-/
namespace TermTape

/-- A length of time in nanoseconds. -/
structure Duration where
  nanoseconds : Nat
  deriving DecidableEq, Repr

namespace Duration

/-- The nanoseconds of a second. -/
def perSecond : Nat := 1000000000

/-- No time. -/
def zero : Duration := ⟨0⟩

/-- The longest duration, of 64 bits of seconds. -/
def longest : Duration := ⟨Nat.pow 2 64 * perSecond - 1⟩

instance : LE Duration := ⟨fun a b => a.nanoseconds ≤ b.nanoseconds⟩
instance (a b : Duration) : Decidable (a ≤ b) :=
  inferInstanceAs (Decidable (a.nanoseconds ≤ b.nanoseconds))
instance : Add Duration := ⟨fun a b => ⟨a.nanoseconds + b.nanoseconds⟩⟩

/-- The duration takes no time. -/
def isZero (d : Duration) : Bool := d.nanoseconds == 0

/-- The duration cut to a limit; a limit of zero is none. -/
def cut (d limit : Duration) : Duration :=
  if limit.isZero then d else if d ≤ limit then d else limit

/-- The seconds of a duration: the whole ones plus the nearest number to the fraction. -/
def seconds (d : Duration) : Binary64 :=
  Binary64.ofNat (d.nanoseconds / perSecond) +
    Binary64.ofNat (d.nanoseconds % perSecond) / Binary64.ofNat perSecond

/-- The duration of a number of seconds. -/
def ofSeconds? : Binary64 → Option Duration
  | .nan | .infinite _ => none
  | .finite negative units _ =>
    if negative && units != 0 then none
    else if 64 + unitPlaces ≤ units.log2 then none
    else some ⟨divNearest (units * perSecond) (Nat.pow 2 unitPlaces)⟩

end Duration
end TermTape

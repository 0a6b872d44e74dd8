/-!
# Punycode

Labels of domain names outside ASCII as ASCII texts. The ASCII characters of a label come first;
then each other character is inserted, in the order of code points, by the distance from the place
and code point of the one before. Distances are numbers of base 36 with digits of variable weight,
the least significant first.
-/
namespace TermTape.Url.Punycode

/-- A digit of base 36: the letters, then the decimal digits. -/
def digitChar (d : Nat) : Char :=
  if d < 26 then Char.ofNat (0x61 + d) else Char.ofNat (0x30 + (d - 26))

/-- The value of a digit of base 36. -/
def digitValue? (c : Char) : Option Nat :=
  if c.isLower then some (c.toNat - 0x61)
  else if c.isUpper then some (c.toNat - 0x41)
  else if c.isDigit then some (c.toNat - 0x30 + 26)
  else none

/-- The least digit at a place that is followed by another one. -/
def threshold (bias place : Nat) : Nat := max 1 (min 26 (place - bias))

/-- The places by which a distance moves the thresholds. -/
def scaled (distance : Nat) : Nat :=
  if 455 < distance then 36 + scaled (distance / 35)
  else 36 * distance / (distance + 38)

/-- The bias after a distance, with the count of characters that are then in place. -/
def adapt (distance count : Nat) (first : Bool) : Nat :=
  let part := if first then distance / 700 else distance / 2
  scaled (part + part / count)

/-- The digits of a distance from a place on. -/
def distanceDigits (bias place distance : Nat) : List Char :=
  let least := threshold bias place
  if distance < least then [digitChar distance]
  else
    digitChar (least + (distance - least) % (36 - least)) ::
      distanceDigits bias (place + 36) ((distance - least) / (36 - least))
termination_by distance
decreasing_by
  have : 1 ≤ threshold bias place := by unfold threshold; omega
  have := Nat.div_le_self (distance - threshold bias place) (36 - threshold bias place)
  omega

/-! ## Writing -/

/-- The distance since the last insertion, the bias, the characters in place, and what has been
written. -/
structure Writer where
  distance : Nat
  bias : Nat
  placed : Nat
  basic : Nat
  digits : List Char

/-- One character of the label while those of a code point are inserted. -/
def Writer.pass (code : Nat) (writer : Writer) (c : Char) : Writer :=
  if c.toNat < code then { writer with distance := writer.distance + 1 }
  else if c.toNat = code then
    { writer with
      distance := 0
      bias := adapt writer.distance (writer.placed + 1) (writer.placed == writer.basic)
      placed := writer.placed + 1
      digits := writer.digits ++ distanceDigits writer.bias 36 writer.distance }
  else writer

/-- The insertions of ascending code points, the first of them not below `next`. -/
def insertions (label : List Char) (writer : Writer) (next : Nat) : List Nat → List Char
  | [] => writer.digits
  | code :: codes =>
    let ahead := writer.distance + (code - next) * (writer.placed + 1)
    let writer := label.foldl (Writer.pass code) { writer with distance := ahead }
    insertions label { writer with distance := writer.distance + 1 } (code + 1) codes

/-- A label as an ASCII text. -/
def encode (label : List Char) : List Char :=
  let basic := label.filter (·.toNat < 0x80)
  let codes := ((label.map Char.toNat).filter (0x80 ≤ ·)).mergeSort.eraseDups
  let start := ⟨0, 72, basic.length, basic.length, []⟩
  basic ++ (if basic.isEmpty then [] else ['-']) ++ insertions label start 0x80 codes

/-! ## Reading -/

/-- The characters in place, the next code point and place, and the distance that is being read. -/
structure Reader where
  placed : List Nat
  code : Nat
  index : Nat
  start : Nat
  bias : Nat
  weight : Nat
  place : Nat

/-- A distance and its weights stay below this number. -/
def distanceBound : Nat := Nat.pow 2 32

/-- One digit of the insertions. -/
def Reader.digit? (reader : Reader) (c : Char) : Option Reader := do
  let value ← digitValue? c
  let index := reader.index + value * reader.weight
  let least := threshold reader.bias reader.place
  let weight := reader.weight * (36 - least)
  if distanceBound ≤ index then none
  else if least ≤ value then
    if distanceBound ≤ weight then none
    else some { reader with index, weight, place := reader.place + 36 }
  else
    let count := reader.placed.length + 1
    let code := reader.code + index / count
    let spot := index % count
    some {
      placed := reader.placed.take spot ++ code :: reader.placed.drop spot
      code
      index := spot + 1
      start := spot + 1
      bias := adapt (index - reader.start) count (reader.start == 0)
      weight := 1
      place := 36 }

/-- The ASCII characters of a text, up to its last hyphen, and its insertions. A hyphen that nothing
stands before separates nothing and is taken for a digit, which it is not. -/
def halves (text : List Char) : List Char × List Char :=
  let digits := (text.reverse.takeWhile (· != '-')).reverse
  let basic := text.take (text.length - digits.length - 1)
  if basic.isEmpty then ([], text) else (basic, digits)

/-- The label of an ASCII text. -/
def decode? (text : List Char) : Option (List Char) := do
  let (basic, digits) := halves text
  let start := ⟨basic.map Char.toNat, 0x80, 0, 0, 72, 1, 36⟩
  let reader ← digits.foldlM Reader.digit? start
  if reader.place != 36 then none
  else reader.placed.mapM fun code => if code.isValidChar then some (Char.ofNat code) else none

end TermTape.Url.Punycode

import TermTape.Text.Basic
import TermTape.Url.Percent

/-!
# Addresses

A host whose last part is a number is an IPv4 address. Its parts may be decimal, octal or
hexadecimal, and the last of fewer than four parts fills the bytes that are left.

An IPv6 address is eight pieces of sixteen bits, in groups of up to four hexadecimal digits. Two
colons stand once for one or more pieces that are zero, and the last two pieces may be four decimal
bytes. An address is written with its longest run of two or more zeros left out.
-/
namespace TermTape.Url

/-! ## IPv4 -/

/-- The number of a part: hexadecimal after `0x`, octal after another leading zero, and otherwise
decimal. -/
def ipv4Part? : List Char → Option Nat
  | [] => none
  | '0' :: 'x' :: digits => numberIn? 16 digits
  | '0' :: 'X' :: digits => numberIn? 16 digits
  | '0' :: d :: digits => numberIn? 8 (d :: digits)
  | digits => numberIn? 10 digits

/-- The parts of a host name; one dot at the end does not count. -/
def nameParts (name : List Char) : List (List Char) :=
  let parts := splitAt (· == '.') name
  if 1 < parts.length && parts.getLast? == some [] then parts.dropLast else parts

/-- The last part of a host name is a number. -/
def endsInNumber (name : List Char) : Bool :=
  match (nameParts name).getLast? with
  | some last => !last.isEmpty && (last.all Char.isDigit || (ipv4Part? last).isSome)
  | none => false

/-- The address of the numbers of its parts: single bytes, and a last number that fits the bytes
left. -/
def ipv4OfNumbers? (numbers : List Nat) : Option Nat :=
  match numbers.reverse with
  | [] => none
  | last :: front =>
    let bytes := front.reverse
    let room := Nat.pow 256 (4 - bytes.length)
    if 3 < bytes.length || bytes.any (255 < ·) || room ≤ last then none
    else some (bytes.foldl (fun n b => n * 256 + b) 0 * room + last)

/-- The address that a host name denotes. -/
def ipv4Of? (name : List Char) : Option Nat :=
  ((nameParts name).mapM ipv4Part?).bind ipv4OfNumbers?

/-- An address as four decimal bytes. -/
def ipv4Text (address : Nat) : List Char :=
  let byteText (place : Nat) := Nat.toDigits 10 (address / Nat.pow 256 place % 256)
  byteText 3 ++ '.' :: byteText 2 ++ '.' :: byteText 1 ++ '.' :: byteText 0

/-! ## IPv6 -/

/-- A decimal byte without leading zeros. -/
def decimalByte? (digits : List Char) : Option Nat :=
  match digits with
  | [] => none
  | ['0'] => some 0
  | '0' :: _ => none
  | digits => (numberIn? 10 digits).filter (· ≤ 255)

/-- The two pieces of four decimal bytes. -/
def dottedPieces? (text : List Char) : Option (List Nat) :=
  match (splitAt (· == '.') text).mapM decimalByte? with
  | some [a, b, c, d] => some [a * 256 + b, c * 256 + d]
  | _ => none

/-- The piece of a group of digits. -/
def hexPiece? (digits : List Char) : Option Nat :=
  if digits.isEmpty || 4 < digits.length then none else numberIn? 16 digits

/-- The pieces of groups between colons; the last group may be decimal bytes. -/
def groupPieces? (dotted : Bool) : List (List Char) → Option (List Nat)
  | [] => some []
  | [last] =>
    if dotted && last.contains '.' then dottedPieces? last else (hexPiece? last).map ([·])
  | group :: rest => do
    let piece ← hexPiece? group
    let pieces ← groupPieces? dotted rest
    some (piece :: pieces)

/-- The pieces of a text of groups; no text has no pieces. -/
def pieces? (dotted : Bool) (text : List Char) : Option (List Nat) :=
  if text.isEmpty then some [] else groupPieces? dotted (splitAt (· == ':') text)

/-- The texts on both sides of the first two colons that stand together. -/
def cutAtGap : List Char → Option (List Char × List Char)
  | ':' :: ':' :: rest => some ([], rest)
  | c :: rest => (cutAtGap rest).map fun (before, after) => (c :: before, after)
  | [] => none

/-- The address of a text. -/
def ipv6Of? (text : List Char) : Option (List Nat) :=
  match cutAtGap text with
  | none => (pieces? true text).filter (·.length == 8)
  | some (before, after) => do
    let front ← pieces? false before
    let back ← pieces? true after
    if 7 < front.length + back.length then none
    else some (front ++ List.replicate (8 - front.length - back.length) 0 ++ back)

/-- The start and length of the first longest run of zeros. -/
def longestZeros (pieces : List Nat) : Nat × Nat :=
  (List.range pieces.length).foldl (fun (start, length) i =>
    let run := ((pieces.drop i).takeWhile (· == 0)).length
    if length < run then (i, run) else (start, length)) (0, 0)

/-- Pieces between colons. -/
def colonText (pieces : List Nat) : List Char :=
  List.intercalate [':'] (pieces.map (Nat.toDigits 16))

/-- An address as a text. -/
def ipv6Text (pieces : List Nat) : List Char :=
  let (start, length) := longestZeros pieces
  if length < 2 then colonText pieces
  else colonText (pieces.take start) ++ [':', ':'] ++ colonText (pieces.drop (start + length))

end TermTape.Url

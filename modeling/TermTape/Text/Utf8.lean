/-!
# UTF-8

Characters as bytes, and bytes as pieces: whole characters, and stray runs where no character
stands. A stray run is as long as the bytes could still begin a character, so the pieces of any
bytes are determined and together are the bytes again (`Piece.bytes`).
-/
namespace TermTape

/-- A string of bytes. -/
abbrev Bytes := List UInt8

namespace Utf8

/-! ## Characters as bytes -/

/-- A continuation byte with six bits of a code point. -/
def tailByte (bits : Nat) : UInt8 := UInt8.ofNat (0x80 + bits % 64)

/-- The bytes of a character. -/
def encodeChar (c : Char) : Bytes :=
  let n := c.toNat
  if n < 0x80 then [UInt8.ofNat n]
  else if n < 0x800 then [UInt8.ofNat (0xc0 + n / 64), tailByte n]
  else if n < 0x10000 then [UInt8.ofNat (0xe0 + n / 4096), tailByte (n / 64), tailByte n]
  else
    [UInt8.ofNat (0xf0 + n / 262144), tailByte (n / 4096), tailByte (n / 64), tailByte n]

/-- The bytes of characters. -/
def encode (text : List Char) : Bytes := text.flatMap encodeChar

/-! ## Bytes as pieces -/

/-- A part of a string of bytes. -/
inductive Piece where
  | char (c : Char)
  | stray (bytes : Bytes)
  deriving DecidableEq

/-- The bytes of a piece. -/
def Piece.bytes : Piece → Bytes
  | .char c => encodeChar c
  | .stray bytes => bytes

/-- A byte that continues a character. -/
def isTail (b : UInt8) : Bool := 0x80 ≤ b && b ≤ 0xbf

/-- A byte that begins a character of two bytes or more. -/
def isLead (b : UInt8) : Bool := 0xc2 ≤ b && b ≤ 0xf4

/-- The second byte fits the first: no character has a form longer than it needs, none is a
surrogate and none is past the last code point. -/
def isSecond (lead b : UInt8) : Bool :=
  if lead == 0xe0 then 0xa0 ≤ b && b ≤ 0xbf
  else if lead == 0xed then 0x80 ≤ b && b ≤ 0x9f
  else if lead == 0xf0 then 0x90 ≤ b && b ≤ 0xbf
  else if lead == 0xf4 then 0x80 ≤ b && b ≤ 0x8f
  else isTail b

/-- The character of two bytes. -/
def join2 (a b : UInt8) : Char :=
  Char.ofNat (a.toNat % 32 * 64 + b.toNat % 64)

/-- The character of three bytes. -/
def join3 (a b c : UInt8) : Char :=
  Char.ofNat (a.toNat % 16 * 4096 + b.toNat % 64 * 64 + c.toNat % 64)

/-- The character of four bytes. -/
def join4 (a b c d : UInt8) : Char :=
  Char.ofNat (a.toNat % 8 * 262144 + b.toNat % 64 * 4096 + c.toNat % 64 * 64 + d.toNat % 64)

/-- The pieces of a string of bytes, the longest characters and stray runs from the left. -/
def pieces : Bytes → List Piece
  | [] => []
  | a :: rest =>
    if a < 0x80 then .char (Char.ofNat a.toNat) :: pieces rest
    else if !isLead a then .stray [a] :: pieces rest
    else match rest with
      | [] => [.stray [a]]
      | b :: rest₂ =>
        if !isSecond a b then .stray [a] :: pieces (b :: rest₂)
        else if a < 0xe0 then .char (join2 a b) :: pieces rest₂
        else match rest₂ with
          | [] => [.stray [a, b]]
          | c :: rest₃ =>
            if !isTail c then .stray [a, b] :: pieces (c :: rest₃)
            else if a < 0xf0 then .char (join3 a b c) :: pieces rest₃
            else match rest₃ with
              | [] => [.stray [a, b, c]]
              | d :: rest₄ =>
                if !isTail d then .stray [a, b, c] :: pieces (d :: rest₄)
                else .char (join4 a b c d) :: pieces rest₄

/-- The characters of a string of bytes, if it holds nothing else. -/
def decode? (bytes : Bytes) : Option (List Char) :=
  (pieces bytes).mapM fun
    | .char c => some c
    | .stray _ => none

/-- The character that stands for a run of bytes that are no character. -/
def replacement : Char := '\ufffd'

/-- The characters of a string of bytes, one replacement character for each stray run. -/
def decodeLossy (bytes : Bytes) : List Char :=
  (pieces bytes).map fun
    | .char c => c
    | .stray _ => replacement

/-- The text of a string of bytes, if it is UTF-8. -/
def text? (bytes : Bytes) : Option String :=
  (decode? bytes).map String.ofList

end Utf8

/-- The bytes of a text. -/
def textBytes (text : String) : Bytes := Utf8.encode text.toList

end TermTape

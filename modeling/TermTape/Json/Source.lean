import TermTape.Json.Fault
import TermTape.Text.Utf8

/-!
# Sources of JSON texts

A JSON text comes as bytes, after which its source either ends or fails. A reader that looks past
the last byte learns which (`look`, `atEnd`), and never looks farther than the grammar makes it.
Readers return what they have read with the bytes left over, and with the fact that these are fewer
(`Shorter`) or not more (`AtMost`).
-/
namespace TermTape.Json

/-- What a source does after its last byte: it ends, or it fails. -/
inductive Ending where
  | ends
  | fails (cause : IoError)
  deriving DecidableEq

/-- What the read of one byte reports: the byte, or a failure. -/
inductive ByteReply where
  | byte (b : UInt8)
  | fails (cause : IoError)

/-- The bytes that a source yields, and what it does after them. A read that was interrupted is made
again, and a source with nothing more to report has ended. -/
def received : List ByteReply → Bytes × Ending
  | [] => ([], .ends)
  | .byte b :: replies =>
    let (bytes, ending) := received replies
    (b :: bytes, ending)
  | .fails cause :: replies =>
    if cause.kind = .interrupted then received replies else ([], .fails cause)

/-- Fewer bytes than the input. -/
abbrev Shorter (input : Bytes) := { rest : Bytes // rest.length < input.length }

/-- No more bytes than the input. -/
abbrev AtMost (input : Bytes) := { rest : Bytes // rest.length ≤ input.length }

/-- All bytes of the input. -/
def AtMost.all (input : Bytes) : AtMost input := ⟨input, Nat.le_refl _⟩

theorem length_lt_trans {input rest left : Bytes} (h : rest.length < input.length)
    (h₂ : left.length < rest.length) : left.length < input.length :=
  Nat.lt_trans h₂ h

theorem length_le_of_le_of_lt {input rest left : Bytes} (h : rest.length ≤ input.length)
    (h₂ : left.length < rest.length) : left.length ≤ input.length :=
  Nat.le_trans (Nat.le_of_lt h₂) h

theorem length_le_cons {b : UInt8} {input rest : Bytes} (h : rest.length ≤ input.length) :
    rest.length ≤ (b :: input).length :=
  Nat.le_succ_of_le h

/-- A breach of the grammar as a fault. -/
def breach {α : Type} (cause : Malformed) : Except Fault α := .error (.malformed cause)

/-- The fault of a text that stops where the grammar goes on: the breach if the source ends there,
and otherwise the failure of the source. -/
def Ending.atEnd {α : Type} (ending : Ending) (cause : Malformed) : Except Fault α :=
  match ending with
  | .ends => breach cause
  | .fails cause => .error (.stopped cause)

/-- Look at the next byte where the text may as well end. -/
def Ending.look (ending : Ending) (rest : Bytes) : Except Fault Unit :=
  match rest, ending with
  | [], .fails cause => .error (.stopped cause)
  | _, _ => .ok ()

/-! ## Bytes of the grammar -/

/-- The byte of an ASCII character. -/
def byte (c : Char) : UInt8 := UInt8.ofNat c.toNat

/-- The blanks of the grammar. -/
def isGap (b : UInt8) : Bool := b == 0x20 || b == 0x0a || b == 0x09 || b == 0x0d

/-- A decimal digit. -/
def isDigit (b : UInt8) : Bool := 0x30 ≤ b && b ≤ 0x39

/-- The value of a hexadecimal digit of either case. -/
def hexValue? (b : UInt8) : Option Nat :=
  if 0x30 ≤ b && b ≤ 0x39 then some (b.toNat - 0x30)
  else if 0x61 ≤ b && b ≤ 0x66 then some (b.toNat - 0x57)
  else if 0x41 ≤ b && b ≤ 0x46 then some (b.toNat - 0x37)
  else none

/-- The value of four hexadecimal digits. -/
def hexUnit? (a b c d : UInt8) : Option Nat := do
  let a ← hexValue? a
  let b ← hexValue? b
  let c ← hexValue? c
  let d ← hexValue? d
  some (((a * 16 + b) * 16 + c) * 16 + d)

/-- The input without the blanks before it. -/
def skipGap (input : Bytes) : Bytes := input.dropWhile isGap

theorem length_skipGap_le (input : Bytes) : (skipGap input).length ≤ input.length :=
  (List.dropWhile_sublist _).length_le

theorem length_cons_le_of_skipGap {input rest : Bytes} {b : UInt8}
    (h : skipGap input = b :: rest) : (b :: rest).length ≤ input.length :=
  h ▸ length_skipGap_le input

theorem length_lt_of_skipGap {input rest : Bytes} {b : UInt8} (h : skipGap input = b :: rest) :
    rest.length < input.length :=
  length_cons_le_of_skipGap h

theorem length_lt_of_skipGap_lt {input rest left : Bytes} {b : UInt8}
    (h : skipGap input = b :: rest) (h₂ : left.length < rest.length) :
    left.length < input.length :=
  Nat.lt_trans h₂ (length_lt_of_skipGap h)

theorem length_lt_of_skipGap_le {input rest left : Bytes} {b : UInt8}
    (h : skipGap input = b :: rest) (h₂ : left.length ≤ rest.length) :
    left.length < input.length :=
  Nat.lt_of_le_of_lt h₂ (length_lt_of_skipGap h)

theorem length_lt_of_skipGap_cons {input rest left : Bytes} {b : UInt8}
    (h : skipGap input = b :: rest) (h₂ : left.length < (b :: rest).length) :
    left.length < input.length :=
  Nat.lt_of_lt_of_le h₂ (length_cons_le_of_skipGap h)

/-- The rest of a name after its first letter. -/
def readName (ending : Ending) : Bytes → (input : Bytes) → Except Fault (AtMost input)
  | [], input => .ok (.all input)
  | _ :: _, [] => ending.atEnd .endInValue
  | wanted :: name, b :: input =>
    if b == wanted then do
      let ⟨rest, h⟩ ← readName ending name input
      .ok ⟨rest, length_le_cons h⟩
    else breach .expectedName

/-- The letters of `null` after the first. -/
def nullTail : Bytes := [0x75, 0x6c, 0x6c]

/-- The letters of `true` after the first. -/
def trueTail : Bytes := [0x72, 0x75, 0x65]

/-- The letters of `false` after the first. -/
def falseTail : Bytes := [0x61, 0x6c, 0x73, 0x65]

end TermTape.Json

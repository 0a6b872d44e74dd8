import TermTape.Json.Text
import TermTape.Text.Basic

/-!
# Frame texts

The output of a frame is bytes, and a frame text is a JSON string that keeps all of them. Printable
characters stand as they are, except the quote, the backslash and the three that markup uses; all
others are escaped by their code units, and a byte that belongs to no character by the lone low
surrogate `dc00` plus the byte. Decoding gives each such surrogate back as its byte; any other
surrogate without its partner is the replacement character.
-/
namespace TermTape.FrameText

/-! ## Writing -/

/-- The code unit that stands for the byte zero among the stray bytes. -/
def strayBase : Nat := 0xdc00

/-- The escape of a code unit by four hexadecimal digits. -/
def unitEscape (unit : Nat) : List Char :=
  let digits := Nat.toDigits 16 unit
  ['\\', 'u'] ++ List.replicate (4 - digits.length) '0' ++ digits

/-- The code units of a character: one, or a pair of surrogates. -/
def codeUnits (c : Char) : List Nat :=
  if c.toNat < 0x10000 then [c.toNat]
  else
    [0xd800 + (c.toNat - 0x10000) / 0x400, 0xdc00 + (c.toNat - 0x10000) % 0x400]

/-- The letter of a short escape. -/
def shortLetter? (c : Char) : Option Char :=
  if c == '"' || c == '\\' then some c
  else if c == '\x08' then some 'b'
  else if c == '\x0c' then some 'f'
  else if c == '\n' then some 'n'
  else if c == '\r' then some 'r'
  else if c == '\t' then some 't'
  else none

/-- Markup gives the character a meaning. -/
def isMarkup (c : Char) : Bool := c == '&' || c == '<' || c == '>'

/-- One character of a frame text. -/
def encodeChar (c : Char) : List Char :=
  match shortLetter? c with
  | some letter => ['\\', letter]
  | none =>
    if isMarkup c || !isPrintable c then (codeUnits c).flatMap unitEscape else [c]

/-- One piece of output in a frame text. -/
def encodePiece : Utf8.Piece → List Char
  | .char c => encodeChar c
  | .stray bytes => bytes.flatMap fun b => unitEscape (strayBase + b.toNat)

/-- A frame text between its quotes. -/
def body (data : Bytes) : List Char := (Utf8.pieces data).flatMap encodePiece

/-- The frame text of some output. -/
def encode (data : Bytes) : String := String.ofList ('"' :: body data ++ ['"'])

/-! ## Reading -/

/-- Why a text is no frame text. -/
inductive Fault where
  | notString
  | dangling
  | badEscape (letter : UInt8)
  | badUnit
  deriving DecidableEq, Repr

/-- The wording of a fault; the letter of an unknown escape is shown as the character of its first
byte. -/
def Fault.message : Fault → String
  | .notString => "frame text must be a string"
  | .dangling => "dangling escape in frame text"
  | .badEscape letter =>
    "invalid escape '\\" ++ String.ofList [Char.ofNat letter.toNat] ++ "' in frame text"
  | .badUnit => "malformed \\u escape in frame text"

/-- The bytes of a code unit that is no part of a pair. -/
def loneUnit (unit : Nat) : Bytes :=
  if 0xdc80 ≤ unit ∧ unit ≤ 0xdcff then [UInt8.ofNat (unit - strayBase)]
  else if Json.isHighUnit unit || Json.isLowUnit unit then Utf8.encodeChar Utf8.replacement
  else Utf8.encodeChar (Char.ofNat unit)

/-- The output of a frame text between its quotes, after the bytes before it in reverse order. -/
def decodeBody (before : Bytes) : Bytes → Except Fault Bytes
  | [] => .ok before.reverse
  | 0x5c :: [] => .error .dangling
  | 0x5c :: 0x75 :: a :: b :: c :: d :: rest =>
    match Json.hexUnit? a b c d with
    | none => .error .badUnit
    | some unit =>
      if Json.isHighUnit unit then
        match rest with
        | 0x5c :: 0x75 :: a₂ :: b₂ :: c₂ :: d₂ :: rest₂ =>
          match Json.hexUnit? a₂ b₂ c₂ d₂ with
          | none => .error .badUnit
          | some low =>
            if Json.isLowUnit low then
              decodeBody ((Utf8.encodeChar (Json.pairChar unit low)).reverse ++ before) rest₂
            else
              decodeBody ((loneUnit unit).reverse ++ before)
                (0x5c :: 0x75 :: a₂ :: b₂ :: c₂ :: d₂ :: rest₂)
        | 0x5c :: 0x75 :: _ => .error .badUnit
        | rest => decodeBody ((loneUnit unit).reverse ++ before) rest
      else decodeBody ((loneUnit unit).reverse ++ before) rest
  | 0x5c :: 0x75 :: _ => .error .badUnit
  | 0x5c :: letter :: rest =>
    match Json.shortEscape? letter with
    | some b => decodeBody (b :: before) rest
    | none => .error (.badEscape letter)
  | b :: rest => decodeBody (b :: before) rest

/-- The bytes between the quotes of a text that begins and ends with one. -/
def between? (literal : Bytes) : Option Bytes :=
  match literal with
  | 0x22 :: rest => if rest.getLast? = some 0x22 then some rest.dropLast else none
  | _ => none

/-- The output of a frame text. -/
def decode (literal : Bytes) : Except Fault Bytes :=
  match between? literal with
  | some inner => decodeBody [] inner
  | none => .error .notString

end TermTape.FrameText

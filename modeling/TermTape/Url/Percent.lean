import TermTape.Text.Basic
import TermTape.Text.Utf8

/-!
# Percent escapes

Parts of a URL keep most ASCII characters and escape all others byte by byte. Which of the visible
ASCII characters are escaped depends on the part.
-/
namespace TermTape.Url

/-- A digit of an escape. -/
def escapeDigit (n : Nat) : Char := (Nat.digitChar n).toUpper

/-- A byte as an escape. -/
def escapeByte (b : UInt8) : List Char :=
  ['%', escapeDigit (b.toNat / 16), escapeDigit (b.toNat % 16)]

/-- A part of a URL with its escapes. Controls and characters outside ASCII are always escaped. -/
def escape (reserved : List Char) (text : List Char) : List Char :=
  text.flatMap fun c =>
    if c.toNat < 0x20 || 0x7e < c.toNat || reserved.contains c then
      (Utf8.encodeChar c).flatMap escapeByte
    else [c]

/-- What a fragment escapes. -/
def fragmentReserved : List Char := [' ', '"', '<', '>', '\x60']

/-- What a query escapes. -/
def queryReserved : List Char := [' ', '"', '#', '<', '>']

/-- What a path escapes. -/
def pathReserved : List Char := fragmentReserved ++ ['#', '?', '\x7b', '\x7d']

/-- What a user name or a password escapes. -/
def userReserved : List Char :=
  pathReserved ++ ['/', ':', ';', '=', '@', '[', '\\', ']', '^', '|']

/-- The bytes of a text whose escapes are taken back. A sign without two digits stands for
itself. -/
def unescape : List Char → Bytes
  | [] => []
  | '%' :: a :: b :: rest =>
    match digitIn? 16 a, digitIn? 16 b with
    | some high, some low => UInt8.ofNat (high * 16 + low) :: unescape rest
    | _, _ => 0x25 :: unescape (a :: b :: rest)
  | c :: rest => Utf8.encodeChar c ++ unescape rest

end TermTape.Url

import TermTape.Text.Basic
import TermTape.Text.Marks
import TermTape.Text.Unassigned

/-!
# Quoted texts in messages

A text between double quotes in which quotes, backslashes and characters without a glyph of their
own are escaped, so that a message shows it on one line and without doubt.
-/
namespace TermTape

/-- The ranges of the letters that only fill a place. -/
def fillerRanges : CodeRanges := [(0x115f, 0x1160), (0x3164, 0x3164), (0xffa0, 0xffa0)]

/-- The character has no glyph of its own: it is not printable, stands for nothing, is one sign with
the character before it, or only fills a place. -/
def isGlyphless (c : Char) : Bool :=
  !isPrintable c || unassignedRanges.holds c || isExtending c || fillerRanges.holds c

/-- The hexadecimal digits of a number. -/
def hexDigits (n : Nat) : List Char := Nat.toDigits 16 n

/-- The escape of a character by its code point. -/
def codePointEscape (c : Char) : List Char :=
  ['\\', 'u', '\x7b'] ++ hexDigits c.toNat ++ ['\x7d']

/-- One character as a quoted text shows it. -/
def quotedChar (c : Char) : List Char :=
  if c == '\x00' then ['\\', '0']
  else if c == '\t' then ['\\', 't']
  else if c == '\r' then ['\\', 'r']
  else if c == '\n' then ['\\', 'n']
  else if c == '"' then ['\\', '"']
  else if c == '\\' then ['\\', '\\']
  else if isGlyphless c then codePointEscape c
  else [c]

/-- A text between double quotes with its special characters escaped. -/
def quoted (text : String) : String :=
  String.ofList ('"' :: text.toList.flatMap quotedChar ++ ['"'])

end TermTape

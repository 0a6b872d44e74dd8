import TermTape.Console.Screen
import TermTape.Text.Utf8

/-!
# Controls of terminals

What a terminal is told to change its screen: to move the cursor, to clear the line from the cursor
on, to choose or forget colours, to show or hide the cursor, and to put a character. Each is written
as a character or as an escape sequence.
-/
namespace TermTape.Console

/-- The order of the eight colours in escape sequences: the bits of blue and red change places. -/
def colourOrder (colour : Nat) : Nat :=
  (colour / 4 % 2) + colour / 2 % 2 * 2 + colour % 2 * 4

/-- The code of a colour, from a base for plain colours and from one for bright colours. -/
def colourCode (plain bright colour : Nat) : Nat :=
  (if colour / 8 % 2 = 0 then plain else bright) + colourOrder colour

/-- The colours of characters, by their codes. -/
structure Pen where
  foreground : Nat
  background : Nat
  deriving DecidableEq

/-- The pen of the attributes of a cell. -/
def Attributes.pen (attributes : Attributes) : Pen :=
  ⟨colourCode 30 90 attributes.foreground, colourCode 40 100 attributes.background⟩

/-- What a terminal is told. Rows and columns are counted from zero. -/
inductive Control where
  | move (row column : Nat)
  | clearLine
  | colours (pen : Pen)
  | plain
  | showCursor
  | hideCursor
  | put (c : Char)
  deriving DecidableEq

/-- An escape sequence. -/
def sequence (body : List Char) : List Char := '\x1b' :: '[' :: body

/-- The digits of a number. -/
def digits (n : Nat) : List Char := Nat.toDigits 10 n

/-- A control as it is written; written rows and columns are counted from one. -/
def Control.text : Control → List Char
  | .move row column => sequence (digits (row + 1) ++ ';' :: digits (column + 1) ++ ['H'])
  | .clearLine => sequence ['0', 'K']
  | .colours pen => sequence (digits pen.foreground ++ ';' :: digits pen.background ++ ['m'])
  | .plain => sequence ['0', 'm']
  | .showCursor => sequence ['?', '2', '5', 'h']
  | .hideCursor => sequence ['?', '2', '5', 'l']
  | .put c => [c]

/-- Controls as they are written. -/
def controlText (controls : List Control) : List Char := controls.flatMap Control.text

/-- The bytes of controls. -/
def controlBytes (controls : List Control) : Bytes := Utf8.encode (controlText controls)

end TermTape.Console

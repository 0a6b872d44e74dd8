import TermTape.Terminal.Notice

/-!
# Screens of consoles

A console shows rows of cells, each a character in a foreground and a background colour. Colours are
numbers of four bits: blue, green, red, and bright.
-/
namespace TermTape.Console

/-- The bits of the attributes of a cell, of which the lowest eight are its colours. -/
structure Attributes where
  bits : UInt16
  deriving DecidableEq

namespace Attributes

/-- White on black. -/
def usual : Attributes := ⟨7⟩

/-- The foreground colour. -/
def foreground (attributes : Attributes) : Nat := attributes.bits.toNat % 16

/-- The background colour. -/
def background (attributes : Attributes) : Nat := attributes.bits.toNat / 16 % 16

end Attributes

/-- A cell of the screen. -/
structure Cell where
  char : Char
  attributes : Attributes
  deriving DecidableEq

/-- The place of the cursor, counted from zero. -/
structure Cursor where
  row : UInt16
  column : UInt16
  deriving DecidableEq

/-- The place of a cursor that has not moved. -/
def Cursor.home : Cursor := ⟨0, 0⟩

/-- What a console shows at one moment. -/
structure Snapshot where
  size : WindowSize
  rows : List (List Cell)
  cursor : Cursor
  cursorShown : Bool
  deriving DecidableEq

end TermTape.Console

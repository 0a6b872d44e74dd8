import TermTape.Number.Layout
import TermTape.Text.Utf8

/-!
# Terminals

A terminal has columns and rows of cells, and may say how many pixels they take. It shows the user
notices, lines that are coloured by what they mean.
-/
namespace TermTape

/-! ## Sizes -/

/-- The size of a terminal. -/
structure WindowSize where
  columns : UInt16
  rows : UInt16
  pixelWidth : UInt16 := 0
  pixelHeight : UInt16 := 0
  deriving DecidableEq

namespace WindowSize

/-- The size of a terminal that does not say. -/
def usual : WindowSize := ⟨80, 24, 0, 0⟩

/-- The columns and rows of a size. -/
def text (size : WindowSize) : String :=
  wholeText size.columns.toNat ++ "x" ++ wholeText size.rows.toNat

/-- The size has more columns or more rows than a bound. -/
def exceeds (size : WindowSize) (columns rows : UInt16) : Bool :=
  columns < size.columns || rows < size.rows

/-- The size with nothing said of pixels. -/
def plain (size : WindowSize) : WindowSize := ⟨size.columns, size.rows, 0, 0⟩

end WindowSize

/-! ## Notices -/

/-- What a notice means: how things go, or something to act on. -/
inductive Notice.Level where
  | info
  | warning
  deriving DecidableEq

/-- A line for the user. -/
structure Notice where
  level : Notice.Level
  message : String

namespace Notice

/-- The number of the colour of a level: green or yellow. -/
def Level.colour : Level → String
  | .info => "10"
  | .warning => "11"

/-- A notice as the terminal gets it. -/
def text (notice : Notice) : String :=
  "\x1b[38;5;" ++ notice.level.colour ++ "m~ " ++ notice.message ++ "\x1b[0m\n"

/-- The bytes of a notice. -/
def bytes (notice : Notice) : Bytes := textBytes notice.text

end Notice

end TermTape

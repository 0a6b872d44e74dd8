import TermTape.Console.Control

/-!
# Repainting

The controls that turn one snapshot of a screen into another on a terminal. A row is painted again
when it differs from the row before, and every row is when the size has changed. The cursor moves
and is shown or hidden when the snapshots differ in that.
-/
namespace TermTape.Console

/-- The cells of a row, after a pen. Colours are chosen where the attributes change. -/
def paintCells (before : Option Attributes) : List Cell → List Control
  | [] => []
  | cell :: rest =>
    (if before = some cell.attributes then [] else [.colours cell.attributes.pen]) ++
      .put cell.char :: paintCells (some cell.attributes) rest

/-- A row painted on a cleared line. -/
def paintRow (index : Nat) (row : List Cell) : List Control :=
  .move index 0 :: .clearLine :: paintCells none row ++ [.plain]

/-- The rows from an index on that differ from the rows before. -/
def repaintRows (index : Nat) (before : List (List Cell)) : List (List Cell) → List Control
  | [] => []
  | row :: rest =>
    (if before[index]? = some row then [] else paintRow index row) ++
      repaintRows (index + 1) before rest

/-- The rows of a snapshot that still stand when one of a size is shown. -/
def standingRows (before : Option Snapshot) (size : WindowSize) : List (List Cell) :=
  match before with
  | some before => if before.size = size then before.rows else []
  | none => []

/-- The controls that move the cursor. -/
def repaintCursor (before : Option Snapshot) (after : Snapshot) : List Control :=
  let (cursor, shown) := match before with
    | some before => (before.cursor, before.cursorShown)
    | none => (Cursor.home, false)
  (if cursor = after.cursor then []
    else [.move after.cursor.row.toNat after.cursor.column.toNat]) ++
  (if shown = after.cursorShown then []
    else [if after.cursorShown then .showCursor else .hideCursor])

/-- The controls that turn the snapshot before into the one after. -/
def repaint (before : Option Snapshot) (after : Snapshot) : List Control :=
  repaintRows 0 (standingRows before after.size) after.rows ++ repaintCursor before after

/-- The controls of each snapshot in turn, and the last snapshot. -/
def repaints (before : Option Snapshot) : List Snapshot → List (List Control)
  | [] => []
  | after :: rest => repaint before after :: repaints (some after) rest

end TermTape.Console

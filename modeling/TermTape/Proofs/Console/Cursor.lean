import TermTape.Proofs.Console.Reproduction

/-!
# Cursors on displays

Where the cursor of a display stands once a repaint was fed to it: where the snapshot has it, if that
is another place than before, and otherwise at the end of the last row that was painted
(`place_repaint`). So the cursor follows a sequence of snapshots exactly when each repaint that does
not move it paints no row, or ends its last row in the place of the cursor (`cursor_follows_iff`).
-/
namespace TermTape.Console

/-- The row and the column of the cursor of a display. -/
def Display.place (display : Display) : Nat × Nat := (display.row, display.column)

/-- The row and the column of a cursor. -/
def Cursor.place (cursor : Cursor) : Nat × Nat := (cursor.row.toNat, cursor.column.toNat)

/-- The cursor of the snapshot before, which is at home if there is none. -/
def cursorBefore (before : Option Snapshot) : Cursor := (before.map Snapshot.cursor).getD .home

/-- The end of the last row that is painted, of the rows from an index on. -/
def paintedEnd (index : Nat) (before : List (List Cell)) : List (List Cell) → Option (Nat × Nat)
  | [] => none
  | row :: rest =>
    (paintedEnd (index + 1) before rest).or
      (if before[index]? = some row then none else some (index, row.length))

variable {display : Display}

/-! ## Rows -/

private theorem place_paintCells (before : Option Attributes) (row : List Cell) :
    (display.afterAll (paintCells before row)).place = (display.row, display.column + row.length) := by
  induction row generalizing display before with
  | nil => rfl
  | cons cell rest ih =>
    -- The colours of a cell, which may be left out, do not move the cursor.
    have coloured : (display.afterAll
        (if before = some cell.attributes then [] else [.colours cell.attributes.pen])).place =
          display.place := by
      split <;> rfl
    obtain ⟨row, column⟩ := Prod.mk.inj coloured
    rw [paintCells, Display.afterAll_append, Display.afterAll_cons, ih]
    simp only [Display.after, Display.put, row, column, List.length_cons]
    congr 1
    omega

private theorem place_paintRow (index : Nat) (row : List Cell) :
    (display.afterAll (paintRow index row)).place = (index, row.length) := by
  let cleared := (display.after (.move index 0)).after .clearLine
  have cells : (cleared.afterAll (paintCells none row)).place = (index, 0 + row.length) :=
    place_paintCells none row
  rw [paintRow, Display.afterAll_append]
  rwa [Nat.zero_add] at cells

/-- Rows that are painted again leave the cursor at the end of the last of them. -/
theorem place_repaintRows (index : Nat) (before rows : List (List Cell)) :
    (display.afterAll (repaintRows index before rows)).place =
      (paintedEnd index before rows).getD display.place := by
  induction rows generalizing display index with
  | nil => rfl
  | cons row rest ih =>
    rw [repaintRows, Display.afterAll_append, ih, paintedEnd]
    by_cases same : before[index]? = some row
    · simp [same, Display.afterAll_nil]
    · rw [if_neg same, if_neg same, place_paintRow]
      cases paintedEnd (index + 1) before rest <;> rfl

/-! ## Repaints -/

/-- A repaint leaves the cursor where the snapshot after has it, if that is not where the snapshot
before had it, and otherwise where its last row ends. -/
theorem place_repaint (before : Option Snapshot) (after : Snapshot) :
    (display.afterAll (repaint before after)).place =
      if cursorBefore before = after.cursor then
        (paintedEnd 0 (standingRows before after.size) after.rows).getD display.place
      else after.cursor.place := by
  rw [repaint, repaintCursor_eq, Display.afterAll_append, Display.afterAll_append]
  have visibility : ∀ (between : Display) (stays : Prop) [Decidable stays],
      (between.afterAll (if stays then []
        else [if after.cursorShown then .showCursor else .hideCursor])).place = between.place := by
    intro between stays _
    split
    · rfl
    · cases after.cursorShown <;> rfl
  rw [visibility, ← place_repaintRows]
  unfold cursorBefore
  split <;> rfl

/-- A repaint leaves the cursor in its place: it moves the cursor there, or the last row that it
paints ends there. -/
def SettlesCursor (before : Option Snapshot) (after : Snapshot) : Prop :=
  cursorBefore before = after.cursor →
    ∀ place ∈ paintedEnd 0 (standingRows before after.size) after.rows, place = after.cursor.place

instance (before : Option Snapshot) (after : Snapshot) : Decidable (SettlesCursor before after) :=
  inferInstanceAs (Decidable (_ → _))

/-- A display whose cursor is where the snapshot before has it comes to have it where the snapshot
after does, exactly if the repaint leaves it there. -/
theorem place_repaint_iff {before : Option Snapshot} (after : Snapshot)
    (start : display.place = (cursorBefore before).place) :
    (display.afterAll (repaint before after)).place = after.cursor.place ↔
      SettlesCursor before after := by
  rw [place_repaint, SettlesCursor]
  by_cases same : cursorBefore before = after.cursor
  · rw [if_pos same, start, same]
    cases paintedEnd 0 (standingRows before after.size) after.rows with
    | none => simp
    | some place => simp
  · simp [same]

/-! ## Sequences of snapshots -/

/-- Each repaint of a sequence of snapshots leaves the cursor in its place. -/
def AllSettleCursor (before : Option Snapshot) : List Snapshot → Prop
  | [] => True
  | after :: rest => SettlesCursor before after ∧ AllSettleCursor (some after) rest

/-- The cursor is in its place after each repaint exactly if each one leaves it there: as long as this
is so, every repaint starts where the snapshot before has the cursor. -/
theorem places_repaints {before : Option Snapshot} {snapshots : List Snapshot}
    (start : display.place = (cursorBefore before).place) :
    (∀ n after, snapshots[n]? = some after →
      (display.afterAll ((repaints before snapshots).take (n + 1)).flatten).place =
        after.cursor.place) ↔ AllSettleCursor before snapshots := by
  induction snapshots generalizing display before with
  | nil => simp [AllSettleCursor]
  | cons first rest ih =>
    have split : ∀ n, display.afterAll ((repaints before (first :: rest)).take (n + 1)).flatten =
        (display.afterAll (repaint before first)).afterAll
          ((repaints (some first) rest).take n).flatten := by
      intro n
      rw [repaints, List.take_succ_cons, List.flatten_cons, Display.afterAll_append]
    rw [AllSettleCursor, ← place_repaint_iff first start]
    -- Only where the first repaint settles the cursor do the others start as the whole does.
    constructor
    · intro follows
      have settled := follows 0 first rfl
      rw [split, List.take_zero, List.flatten_nil, Display.afterAll_nil] at settled
      refine ⟨settled, (ih settled).mp ?_⟩
      intro n after found
      rw [← split]
      exact follows (n + 1) after found
    · rintro ⟨settled, others⟩ n after found
      rw [split]
      cases n with
      | zero =>
        cases found
        rwa [List.take_zero, List.flatten_nil, Display.afterAll_nil]
      | succ n => exact (ih settled).mpr others n after found

/-- A display whose cursor is at home is fed the repaints of a sequence of snapshots. After each of
them its cursor is where that snapshot has it, exactly if each repaint moves the cursor there, or
paints no row, or ends its last row there. -/
theorem cursor_follows_iff (snapshots : List Snapshot) (display : Display)
    (legible : ∀ snapshot ∈ snapshots, snapshot.Legible) (ground : display.reading = .ground)
    (home : display.place = (0, 0)) :
    (∀ n after, snapshots[n]? = some after →
      (display.feed (((repaints none snapshots).take (n + 1)).flatMap controlBytes)).place =
        after.cursor.place) ↔ AllSettleCursor none snapshots := by
  have start : display.place = (cursorBefore none).place := home
  have fed : ∀ n, display.feed (((repaints none snapshots).take (n + 1)).flatMap controlBytes) =
      display.afterAll ((repaints none snapshots).take (n + 1)).flatten := by
    intro n
    apply feed_parts ground
    intro controls taken
    exact legible_repaints legible controls (List.mem_of_mem_take taken)
  simp only [fed]
  exact places_repaints start

/-- The cursor follows a letter that is typed at a prompt. -/
theorem cursor_follows_typing :
    (Display.blank.feed (((repaints none
      [⟨⟨10, 1, 0, 0⟩, [[⟨'$', .usual⟩]], ⟨0, 1⟩, true⟩,
        ⟨⟨10, 1, 0, 0⟩, [[⟨'$', .usual⟩, ⟨'l', .usual⟩]], ⟨0, 2⟩, true⟩]).take 2).flatMap
          controlBytes)).place = (0, 2) := by
  have legible : ∀ snapshot ∈ [Snapshot.mk ⟨10, 1, 0, 0⟩ [[⟨'$', .usual⟩]] ⟨0, 1⟩ true,
      ⟨⟨10, 1, 0, 0⟩, [[⟨'$', .usual⟩, ⟨'l', .usual⟩]], ⟨0, 2⟩, true⟩], snapshot.Legible := by
    simp [Snapshot.Legible, CodeRanges.holds, controlRanges]
  have follows := (cursor_follows_iff _ Display.blank legible rfl rfl).mpr
    ⟨by decide, by decide, trivial⟩
  exact follows 1 _ rfl

/-- The cursor does not follow where a row changes and the cursor of the snapshots does not: it stays
at the end of the row. -/
theorem cursor_stays_behind :
    ¬ ∀ (snapshots : List Snapshot) (display : Display),
      (∀ snapshot ∈ snapshots, ∀ row ∈ snapshot.rows, ∀ cell ∈ row, isPrintable cell.char = true) →
      display.reading = .ground → display.place = (0, 0) →
      ∀ n after, snapshots[n]? = some after →
        (display.feed (((repaints none snapshots).take (n + 1)).flatMap controlBytes)).place =
          after.cursor.place := by
  intro follows
  let before : Snapshot := ⟨⟨10, 1, 0, 0⟩, [[⟨'a', .usual⟩, ⟨'b', .usual⟩]], ⟨0, 1⟩, true⟩
  let after : Snapshot := { before with rows := [[⟨'c', .usual⟩, ⟨'d', .usual⟩]] }
  have place := follows [before, after] Display.blank (by decide) rfl rfl 1 after rfl
  have legible : ∀ snapshot ∈ [before, after], snapshot.Legible := by
    simp [before, after, Snapshot.Legible, CodeRanges.holds, controlRanges]
  have readable : ∀ controls ∈ (repaints none [before, after]).take 2,
      ∀ control ∈ controls, control.Legible :=
    fun controls taken => legible_repaints legible controls (List.mem_of_mem_take taken)
  rw [feed_parts rfl readable] at place
  have left : (Display.blank.afterAll ((repaints none [before, after]).take 2).flatten).place =
    (0, 2) := rfl
  rw [left] at place
  cases place

end TermTape.Console

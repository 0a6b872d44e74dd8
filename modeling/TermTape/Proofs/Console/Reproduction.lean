import TermTape.Console.Session
import TermTape.Proofs.Console.Display
import TermTape.Proofs.Sink

/-!
# Screens on displays

A display that is fed what a console session writes shows the last snapshot that the session took,
row by row (`polls_reproduce`). Between polls the display mirrors what the session remembers
(`Mirrors`): each poll keeps this, as painting a row leaves the other rows as they are.
-/
namespace TermTape.Console

/-! ## Rows -/

/-- The style of the attributes of a cell. -/
def Attributes.style (attributes : Attributes) : Style :=
  ⟨some attributes.pen.foreground, some attributes.pen.background⟩

/-- What a display shows for a cell. -/
def Cell.glyph (cell : Cell) : Glyph := ⟨cell.char, cell.attributes.style⟩

/-- What a display shows where nothing was put. -/
def Glyph.blank : Glyph := ⟨' ', .usual⟩

namespace Display

/-- A display that shows nothing yet, its cursor at home and hidden. -/
def blank : Display := ⟨fun _ _ => .blank, 0, 0, .usual, false, .ground⟩

/-- A row of a display shows cells, and blanks after them. -/
def Shows (display : Display) (y : Nat) (row : List Cell) : Prop :=
  ∀ x, display.glyphs y x = (row[x]?.map Cell.glyph).getD .blank

/-- What a display shows once cells stand from its cursor on. -/
def painted (display : Display) (row : List Cell) (y x : Nat) : Glyph :=
  if y = display.row ∧ display.column ≤ x then
    (row[x - display.column]?.map Cell.glyph).getD (display.glyphs y x)
  else display.glyphs y x

/-- One display is another but for its glyphs, its cursor and its style. -/
structure Keeps (display after : Display) : Prop where
  shown : after.shown = display.shown
  reading : after.reading = display.reading

theorem Keeps.refl (display : Display) : display.Keeps display := ⟨rfl, rfl⟩

theorem Keeps.trans {display after last : Display} (first : display.Keeps after)
    (second : after.Keeps last) : display.Keeps last :=
  ⟨second.shown.trans first.shown, second.reading.trans first.reading⟩

end Display

open Display (Shows Keeps)

variable {display : Display}

/-- A cell that is put stands before the cells that follow it. -/
theorem painted_put (cell : Cell) (rest : List Cell) (style : display.style = cell.attributes.style) :
    (display.put cell.char).painted rest = display.painted (cell :: rest) := by
  funext y x
  simp only [Display.painted, Display.put, style]
  by_cases row : y = display.row
  · rcases Nat.lt_trichotomy x display.column with before | rfl | past
    · have next : ¬ display.column + 1 ≤ x := by omega
      simp [row, next, Nat.not_le.mpr before, Nat.ne_of_lt before]
    · simp [row, Cell.glyph]
    · have next : x - display.column = x - (display.column + 1) + 1 := by omega
      simp [row, next, Nat.le_of_lt past, Nat.succ_le_of_lt past, Nat.ne_of_gt past]
  · simp [row]

/-- Colours are chosen where they are not those of the cell before. -/
theorem afterAll_colours {before : Option Attributes} {attributes : Attributes}
    (style : before = some attributes → display.style = attributes.style) :
    display.afterAll (if before = some attributes then [] else [.colours attributes.pen]) =
      { display with style := attributes.style } := by
  split
  · rw [← style ‹_›]
    rfl
  · rfl

/-- Cells are painted one after another from the cursor on, each in its own style. -/
theorem paintCells_painted {before : Option Attributes} (row : List Cell)
    (style : ∀ attributes, before = some attributes → display.style = attributes.style) :
    (display.afterAll (paintCells before row)).glyphs = display.painted row ∧
      display.Keeps (display.afterAll (paintCells before row)) := by
  induction row generalizing display before with
  | nil => exact ⟨by funext y x; simp [paintCells, Display.afterAll_nil, Display.painted], .refl display⟩
  | cons cell rest ih =>
    let coloured : Display := { display with style := cell.attributes.style }
    have next : ∀ attributes, some cell.attributes = some attributes →
        (coloured.put cell.char).style = attributes.style := by
      intro attributes same
      cases same
      rfl
    obtain ⟨glyphs, keeps⟩ := ih next
    rw [paintCells, Display.afterAll_append, afterAll_colours (style _), Display.afterAll_cons]
    refine ⟨glyphs.trans (painted_put cell rest rfl), ?_⟩
    exact ⟨keeps.shown, keeps.reading⟩

/-! ## Screens -/

/-- A display comes to show rows from an index on. Its other rows stay as they are, and it ends in its
own style. -/
structure Display.Repaints (display : Display) (index : Nat) (rows : List (List Cell))
    (after : Display) : Prop where
  shows : ∀ k row, rows[k]? = some row → after.Shows (index + k) row
  others : ∀ y, y < index ∨ index + rows.length ≤ y → after.glyphs y = display.glyphs y
  style : after.style = .usual
  keeps : display.Keeps after

theorem Display.Shows.of_glyphs {after : Display} {y : Nat} {row : List Cell}
    (shows : display.Shows y row) (same : after.glyphs y = display.glyphs y) :
    after.Shows y row := by
  unfold Shows
  rwa [same]

theorem Display.Repaints.cons {middle after : Display} {index : Nat} {row : List Cell}
    {rest : List (List Cell)} (first : display.Repaints index [row] middle)
    (others : middle.Repaints (index + 1) rest after) : display.Repaints index (row :: rest) after where
  shows := by
    rintro (_ | k) shown found
    · have single := first.shows 0 shown found
      exact single.of_glyphs (others.others _ (.inl (Nat.lt_succ_self index)))
    · rw [Nat.add_succ, ← Nat.succ_add]
      exact others.shows k shown found
  others y outside := by
    rw [List.length_cons] at outside
    have single : y < index ∨ index + [row].length ≤ y := by
      rw [List.length_singleton]
      omega
    rw [others.others y (by omega), first.others y single]
  style := others.style
  keeps := first.keeps.trans others.keeps

/-- A painted row is shown. -/
theorem repaints_paintRow (style : display.style = .usual) (index : Nat) (row : List Cell) :
    display.Repaints index [row] (display.afterAll (paintRow index row)) := by
  let cleared := (display.after (.move index 0)).after .clearLine
  have painted : (cleared.afterAll (paintCells none row)).glyphs = cleared.painted row ∧
      cleared.Keeps (cleared.afterAll (paintCells none row)) := paintCells_painted row nofun
  have last : display.afterAll (paintRow index row) =
      (cleared.afterAll (paintCells none row)).after .plain := by
    rw [paintRow, Display.afterAll_append]
    rfl
  obtain ⟨glyphs, keeps⟩ := painted
  rw [last]
  refine ⟨?_, fun y outside => ?_, rfl, ⟨keeps.shown, keeps.reading⟩⟩
  · rintro (_ | k) shown found x
    · cases found
      change (cleared.afterAll (paintCells none row)).glyphs index x = _
      rw [glyphs]
      simp [Display.painted, cleared, Display.after, Display.clearLine, style, Glyph.blank]
    · cases found
  · have other : y ≠ index := by
      rw [List.length_singleton] at outside
      omega
    change (cleared.afterAll (paintCells none row)).glyphs y = _
    rw [glyphs]
    funext x
    simp [Display.painted, cleared, Display.after, Display.clearLine, other]

/-- Rows that are not painted again already stand; the others are painted one after another. -/
theorem repaints_repaintRows {index : Nat} {before : List (List Cell)} (rows : List (List Cell))
    (style : display.style = .usual)
    (standing : ∀ y row, index ≤ y → before[y]? = some row → display.Shows y row) :
    display.Repaints index rows (display.afterAll (repaintRows index before rows)) := by
  induction rows generalizing display index with
  | nil => exact ⟨nofun, fun _ _ => rfl, style, .refl display⟩
  | cons row rest ih =>
    rw [repaintRows, Display.afterAll_append]
    have first : display.Repaints index [row]
        (display.afterAll (if before[index]? = some row then [] else paintRow index row)) := by
      split
      · rename_i same
        refine ⟨?_, fun _ _ => rfl, style, .refl display⟩
        rintro (_ | k) shown found
        · cases found
          exact standing index row (Nat.le_refl index) same
        · cases found
      · exact repaints_paintRow style index row
    refine first.cons (ih first.style fun y later past same => ?_)
    have shows := standing y later (Nat.le_of_succ_le past) same
    exact shows.of_glyphs (first.others y (.inr (by rwa [List.length_singleton])))

/-- The rows of a snapshot are shown. -/
def Display.ShowsRows (display : Display) (snapshot : Snapshot) : Prop :=
  ∀ y row, snapshot.rows[y]? = some row → display.Shows y row

/-- A display mirrors the snapshot that a session remembers: it shows its rows, and its cursor as it
does. -/
structure Mirrors (display : Display) (last : Option Snapshot) : Prop where
  ground : display.reading = .ground
  style : display.style = .usual
  rows : ∀ snapshot, last = some snapshot → display.ShowsRows snapshot
  cursor : display.shown = (last.map Snapshot.cursorShown).getD false

private theorem standing_of_mirrors {last : Option Snapshot} (mirrors : Mirrors display last)
    (size : WindowSize) :
    ∀ y row, (standingRows last size)[y]? = some row → display.Shows y row := by
  intro y row found
  cases last with
  | none => cases found
  | some before =>
    rw [standingRows] at found
    split at found
    · exact mirrors.rows before rfl y row found
    · cases found

private theorem afterAll_move (display : Display) (stays : Prop) [Decidable stays]
    (row column : Nat) :
    ∃ y x, display.afterAll (if stays then [] else [.move row column]) =
      { display with row := y, column := x } := by
  split
  · exact ⟨display.row, display.column, rfl⟩
  · exact ⟨row, column, rfl⟩

private theorem afterAll_visibility {shown : Bool} (current : display.shown = shown)
    (wanted : Bool) :
    display.afterAll (if shown = wanted then [] else [if wanted then .showCursor else .hideCursor]) =
      { display with shown := wanted } := by
  split
  · rename_i same
    rw [← same, ← current]
    rfl
  · cases wanted <;> rfl

theorem repaintCursor_eq (last : Option Snapshot) (snapshot : Snapshot) :
    repaintCursor last snapshot =
      (if (last.map Snapshot.cursor).getD .home = snapshot.cursor then []
        else [.move snapshot.cursor.row.toNat snapshot.cursor.column.toNat]) ++
      (if (last.map Snapshot.cursorShown).getD false = snapshot.cursorShown then []
        else [if snapshot.cursorShown then .showCursor else .hideCursor]) := by
  cases last <;> rfl

/-- The cursor is moved and shown as a snapshot has it, and nothing else changes. -/
theorem afterAll_repaintCursor {last : Option Snapshot} (snapshot : Snapshot)
    (cursor : display.shown = (last.map Snapshot.cursorShown).getD false) :
    ∃ y x, display.afterAll (repaintCursor last snapshot) =
      { display with row := y, column := x, shown := snapshot.cursorShown } := by
  rw [repaintCursor_eq, Display.afterAll_append]
  obtain ⟨y, x, moved⟩ := afterAll_move display
    ((last.map Snapshot.cursor).getD .home = snapshot.cursor)
    snapshot.cursor.row.toNat snapshot.cursor.column.toNat
  have current : { display with row := y, column := x }.shown =
    (last.map Snapshot.cursorShown).getD false := cursor
  rw [moved, afterAll_visibility current]
  exact ⟨y, x, rfl⟩

/-- The controls of a repaint turn a display that mirrors the snapshot before into one that mirrors
the snapshot after. -/
theorem mirrors_repaint {last : Option Snapshot} (mirrors : Mirrors display last) (snapshot : Snapshot) :
    Mirrors (display.afterAll (repaint last snapshot)) (some snapshot) := by
  have standing := standing_of_mirrors mirrors snapshot.size
  have rows : display.Repaints 0 snapshot.rows
      (display.afterAll (repaintRows 0 (standingRows last snapshot.size) snapshot.rows)) :=
    repaints_repaintRows snapshot.rows mirrors.style fun y row _ => standing y row
  obtain ⟨y, x, cursor⟩ := afterAll_repaintCursor snapshot (rows.keeps.shown.trans mirrors.cursor)
  rw [repaint, Display.afterAll_append, cursor]
  refine ⟨rows.keeps.reading.trans mirrors.ground, rows.style, ?_, rfl⟩
  intro _ same y row found
  cases same
  have shows := rows.shows y row found
  rwa [Nat.zero_add] at shows

/-! ## Legible controls -/

/-- No cell of a snapshot holds a control character. -/
def Snapshot.Legible (snapshot : Snapshot) : Prop :=
  ∀ row ∈ snapshot.rows, ∀ cell ∈ row, controlRanges.holds cell.char = false

private theorem legible_paintCells {before : Option Attributes} {row : List Cell}
    (legible : ∀ cell ∈ row, controlRanges.holds cell.char = false) :
    ∀ control ∈ paintCells before row, control.Legible := by
  induction row generalizing before with
  | nil => exact nofun
  | cons cell rest ih =>
    obtain ⟨first, others⟩ := List.forall_mem_cons.mp legible
    rw [paintCells, List.forall_mem_append, List.forall_mem_cons]
    refine ⟨?_, first, ih others⟩
    split
    · exact nofun
    · exact List.forall_mem_singleton.mpr cell.attributes.coded_pen

private theorem legible_repaintRows {index : Nat} {before rows : List (List Cell)}
    (legible : ∀ row ∈ rows, ∀ cell ∈ row, controlRanges.holds cell.char = false) :
    ∀ control ∈ repaintRows index before rows, control.Legible := by
  induction rows generalizing index with
  | nil => exact nofun
  | cons row rest ih =>
    obtain ⟨first, others⟩ := List.forall_mem_cons.mp legible
    rw [repaintRows, List.forall_mem_append]
    refine ⟨?_, ih others⟩
    split
    · exact nofun
    · rw [paintRow, List.forall_mem_append, List.forall_mem_cons, List.forall_mem_cons]
      exact ⟨⟨trivial, trivial, legible_paintCells first⟩, List.forall_mem_singleton.mpr trivial⟩

private theorem legible_repaint (last : Option Snapshot) {snapshot : Snapshot}
    (legible : snapshot.Legible) :
    ∀ control ∈ repaint last snapshot, control.Legible := by
  rw [repaint, List.forall_mem_append]
  refine ⟨legible_repaintRows legible, ?_⟩
  rw [repaintCursor_eq, List.forall_mem_append]
  constructor
  · split
    · exact List.forall_mem_nil _
    · exact List.forall_mem_singleton.mpr (by trivial)
  · split
    · exact List.forall_mem_nil _
    · cases snapshot.cursorShown <;> exact List.forall_mem_singleton.mpr (by trivial)

theorem legible_repaints {before : Option Snapshot} {snapshots : List Snapshot}
    (legible : ∀ snapshot ∈ snapshots, snapshot.Legible) :
    ∀ controls ∈ repaints before snapshots, ∀ control ∈ controls, control.Legible := by
  induction snapshots generalizing before with
  | nil => exact List.forall_mem_nil _
  | cons first rest ih =>
    obtain ⟨single, others⟩ := List.forall_mem_cons.mp legible
    rw [repaints, List.forall_mem_cons]
    exact ⟨legible_repaint before single, ih others⟩

/-! ## Sessions -/

theorem controlBytes_append (front back : List Control) :
    controlBytes (front ++ back) = controlBytes front ++ controlBytes back := by
  rw [controlBytes, controlText, List.flatMap_append, Utf8.encode_append]
  rfl

/-- A display that is fed the bytes of one part after another does what their controls say. -/
theorem feed_parts (ground : display.reading = .ground) {parts : List (List Control)}
    (legible : ∀ controls ∈ parts, ∀ control ∈ controls, control.Legible) :
    display.feed (parts.flatMap controlBytes) = display.afterAll parts.flatten := by
  have bytes : parts.flatMap controlBytes = controlBytes parts.flatten := by
    clear legible
    induction parts with
    | nil => rfl
    | cons part rest ih => rw [List.flatMap_cons, ih, List.flatten_cons, controlBytes_append]
  rw [bytes]
  apply Display.feed_controlBytes ground
  intro control member
  obtain ⟨controls, part, inside⟩ := List.mem_flatten.mp member
  exact legible controls part control inside

theorem writeOnce_takesAll {sink : Sink} (takes : sink.TakesAll) (data : Bytes) :
    ∃ after, writeOnce sink data = (.ok (), after) ∧ sink.Took data after := by
  unfold writeOnce
  split
  · rename_i none
    obtain rfl := List.isEmpty_iff.mp none
    exact ⟨sink, rfl, takes.nothing⟩
  · obtain ⟨after, written, took⟩ := Sink.write_takesAll takes data
    rw [written]
    exact ⟨after, by simp, took⟩

/-- The last snapshot after a reading: the one that was read, and otherwise the one before. -/
def lastAfter (last : Option Snapshot) (reading : Except DeviceFault Snapshot) : Option Snapshot :=
  reading.toOption.or last

/-- A poll writes controls, and the display that obeys them mirrors the session again. -/
theorem poll_mirrors {session : Session} {reading : Except DeviceFault Snapshot} {sink : Sink}
    (mirrors : Mirrors display session.last)
    (legible : ∀ snapshot, reading = .ok snapshot → snapshot.Legible) (takes : sink.TakesAll) :
    ∃ controls after, session.poll reading sink = (.ok (), ⟨lastAfter session.last reading⟩, after) ∧
      sink.Took (controlBytes controls) after ∧ (∀ control ∈ controls, control.Legible) ∧
      Mirrors (display.afterAll controls) (lastAfter session.last reading) := by
  cases reading with
  | error fault => exact ⟨[], sink, rfl, takes.nothing, List.forall_mem_nil _, mirrors⟩
  | ok snapshot =>
    obtain ⟨after, written, took⟩ :=
      writeOnce_takesAll takes (controlBytes (repaint session.last snapshot))
    refine ⟨repaint session.last snapshot, after, ?_, took,
      legible_repaint session.last (legible snapshot rfl), mirrors_repaint mirrors snapshot⟩
    rw [Session.poll, written]
    rfl

/-- Polls write controls, and the display that obeys them mirrors the session after all of them. -/
theorem polls_mirrors {session : Session} {readings : List (Except DeviceFault Snapshot)} {sink : Sink}
    (mirrors : Mirrors display session.last)
    (legible : ∀ snapshot, .ok snapshot ∈ readings → snapshot.Legible) (takes : sink.TakesAll) :
    ∃ controls after,
      session.polls sink readings = (.ok (), ⟨readings.foldl lastAfter session.last⟩, after) ∧
      sink.Took (controlBytes controls) after ∧ (∀ control ∈ controls, control.Legible) ∧
      Mirrors (display.afterAll controls) (readings.foldl lastAfter session.last) := by
  induction readings generalizing display session sink with
  | nil => exact ⟨[], sink, rfl, takes.nothing, List.forall_mem_nil _, mirrors⟩
  | cons reading rest ih =>
    obtain ⟨controls, between, polled, took, readable, middle⟩ := poll_mirrors mirrors
      (fun snapshot same => legible snapshot (same ▸ List.mem_cons_self)) takes
    obtain ⟨more, after, others, tookMore, readableMore, last⟩ := ih middle
      (fun snapshot member => legible snapshot (List.mem_cons_of_mem _ member)) took.takesAll
    refine ⟨controls ++ more, after, ?_, ?_, List.forall_mem_append.mpr ⟨readable, readableMore⟩, ?_⟩
    · rw [Session.polls, polled]
      exact others
    · rw [controlBytes_append]
      exact took.trans tookMore
    · rwa [Display.afterAll_append]

/-- The last snapshot after readings is the last that was read. -/
theorem foldl_lastAfter (last : Option Snapshot) (readings : List (Except DeviceFault Snapshot)) :
    readings.foldl lastAfter last = (readings.filterMap Except.toOption).getLast?.or last := by
  induction readings generalizing last with
  | nil => rfl
  | cons reading rest ih =>
    rw [List.foldl_cons, ih]
    cases reading with
    | error fault => rfl
    | ok snapshot =>
      rw [List.filterMap_cons]
      simp only [Except.toOption, lastAfter, Option.some_or, List.getLast?_cons]
      cases (rest.filterMap Except.toOption).getLast? <;> rfl

/-- A console session that starts afresh polls any readings, failures among them, and a sink takes
whatever it writes. A display of any contents, with its own style and its cursor hidden, that is fed
these bytes then shows each row of the last snapshot, with blanks after it, and its cursor exactly if
the snapshot does; it is in its own style again. -/
theorem polls_reproduce (readings : List (Except DeviceFault Snapshot)) (sink : Sink)
    (display : Display) (legible : ∀ snapshot, .ok snapshot ∈ readings → snapshot.Legible)
    (takes : sink.TakesAll) (ground : display.reading = .ground) (style : display.style = .usual)
    (hidden : display.shown = false) :
    ∃ session after bytes, Session.fresh.polls sink readings = (.ok (), session, after) ∧
      after.accepted = sink.accepted ++ bytes ∧
      (display.feed bytes).style = .usual ∧
      ∀ snapshot, (readings.filterMap Except.toOption).getLast? = some snapshot →
        (∀ y row, snapshot.rows[y]? = some row → (display.feed bytes).Shows y row) ∧
        (display.feed bytes).shown = snapshot.cursorShown := by
  have start : Mirrors display Session.fresh.last := ⟨ground, style, nofun, hidden⟩
  obtain ⟨controls, after, polled, took, readable, mirrors⟩ := polls_mirrors start legible takes
  have fed := Display.feed_controlBytes ground readable
  have last := foldl_lastAfter none readings
  rw [Option.or_none] at last
  refine ⟨_, after, controlBytes controls, polled, took.accepted, ?_, fun snapshot seen => ?_⟩
  · rw [fed, mirrors.style]
  · have remembered : readings.foldl lastAfter Session.fresh.last = some snapshot := last.trans seen
    rw [remembered] at mirrors
    rw [fed]
    exact ⟨mirrors.rows snapshot rfl, mirrors.cursor⟩

/-- A display full of other characters shows the row of the second snapshot, which is of another size
and shows its cursor, also after a reading that failed. -/
theorem polls_reproduce_resized :
    ∃ session after bytes,
      Session.fresh.polls (.replying [])
        [.ok ⟨⟨80, 24, 0, 0⟩, [[⟨'a', ⟨7⟩⟩, ⟨'b', ⟨0x1e⟩⟩]], ⟨0, 0⟩, false⟩,
          .ok ⟨⟨40, 12, 0, 0⟩, [[⟨'é', ⟨0x1e⟩⟩]], ⟨3, 1⟩, true⟩, .error .closed] =
          (.ok (), session, after) ∧ after.accepted = bytes ∧
      (Display.mk (fun _ _ => ⟨'x', .usual⟩) 5 5 .usual false .ground |>.feed bytes).Shows 0
        [⟨'é', ⟨0x1e⟩⟩] ∧
      (Display.mk (fun _ _ => ⟨'x', .usual⟩) 5 5 .usual false .ground |>.feed bytes).shown = true := by
  obtain ⟨session, after, bytes, polled, accepted, -, last⟩ := polls_reproduce
    [.ok ⟨⟨80, 24, 0, 0⟩, [[⟨'a', ⟨7⟩⟩, ⟨'b', ⟨0x1e⟩⟩]], ⟨0, 0⟩, false⟩,
      .ok ⟨⟨40, 12, 0, 0⟩, [[⟨'é', ⟨0x1e⟩⟩]], ⟨3, 1⟩, true⟩, .error .closed]
    (.replying []) (Display.mk (fun _ _ => ⟨'x', .usual⟩) 5 5 .usual false .ground)
    (by simp [Snapshot.Legible, CodeRanges.holds, controlRanges])
    ⟨List.forall_mem_nil _, List.forall_mem_nil _⟩ rfl rfl rfl
  obtain ⟨rows, cursor⟩ := last _ rfl
  exact ⟨session, after, bytes, polled, accepted, rows 0 _ rfl, cursor⟩

end TermTape.Console

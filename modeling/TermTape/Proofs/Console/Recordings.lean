import TermTape.Proofs.Console.Reproduction

/-!
# Recordings of one console session

A session that goes from one recording to the next keeps its last snapshot, and a repaint leaves out
the rows that stand in it. What a recording writes therefore shows a row on a blank display exactly
if the row did not stand, in its place and at one size, in that snapshot and in all that the recording
took (`record_shows_iff`): a repaint either paints a row or leaves it as the display has it
(`changes_repaint`).
-/
namespace TermTape.Console

open Display (Shows)

variable {display : Display}

/-! ## Rows that change -/

/-- A display comes to show the rows, from an index on, that differ from the rows before. All others
stay as they are, and it ends in its own style. -/
structure Display.Changes (display : Display) (index : Nat) (before rows : List (List Cell))
    (after : Display) : Prop where
  shows : ∀ k row y, y = index + k → rows[k]? = some row → before[y]? ≠ some row → after.Shows y row
  others : ∀ y, (∀ k row, y = index + k → rows[k]? = some row → before[y]? = some row) →
    after.glyphs y = display.glyphs y
  style : after.style = .usual

theorem Display.Changes.cons {middle after : Display} {index : Nat} {row : List Cell}
    {before rest : List (List Cell)} (first : display.Changes index before [row] middle)
    (others : middle.Changes (index + 1) before rest after) :
    display.Changes index before (row :: rest) after where
  shows := by
    intro k shown y place found changed
    cases k with
    | zero =>
      cases found
      have painted := first.shows 0 row y place rfl changed
      apply painted.of_glyphs
      apply others.others y
      intro k shown later
      omega
    | succ k => exact others.shows k shown y (by omega) found changed
  others := by
    intro y stands
    rw [others.others y fun k shown place found => stands (k + 1) shown (by omega) found]
    apply first.others y
    intro k shown place found
    cases k with
    | zero => exact stands 0 shown place found
    | succ k => cases found
  style := others.style

private theorem changes_row (style : display.style = .usual) (index : Nat)
    (before : List (List Cell)) (row : List Cell) :
    display.Changes index before [row]
      (display.afterAll (if before[index]? = some row then [] else paintRow index row)) := by
  by_cases same : before[index]? = some row
  · rw [if_pos same]
    refine ⟨?_, fun _ _ => rfl, style⟩
    intro k shown y place found changed
    cases k with
    | zero =>
      cases found
      subst place
      exact absurd same changed
    | succ k => cases found
  · rw [if_neg same]
    have painted := repaints_paintRow style index row
    refine ⟨?_, ?_, painted.style⟩
    · intro k shown y place found _
      subst place
      exact painted.shows k shown found
    · intro y stands
      apply painted.others y
      have other : y ≠ index := by
        rintro rfl
        exact same (stands 0 row rfl rfl)
      rw [List.length_singleton]
      omega

private theorem changes_repaintRows (style : display.style = .usual) (index : Nat)
    (before rows : List (List Cell)) :
    display.Changes index before rows (display.afterAll (repaintRows index before rows)) := by
  induction rows generalizing display index with
  | nil => exact ⟨nofun, fun _ _ => rfl, style⟩
  | cons row rest ih =>
    have first := changes_row style index before row
    rw [repaintRows, Display.afterAll_append]
    exact first.cons (ih first.style (index + 1))

private theorem glyphs_repaintCursor (before : Option Snapshot) (after : Snapshot) :
    (display.afterAll (repaintCursor before after)).glyphs = display.glyphs ∧
      (display.afterAll (repaintCursor before after)).style = display.style := by
  rw [repaintCursor_eq, Display.afterAll_append]
  constructor <;> split <;> split <;> cases after.cursorShown <;> rfl

/-- A repaint paints the rows that do not stand in the snapshot before, and only these. -/
theorem changes_repaint (style : display.style = .usual) (before : Option Snapshot) (after : Snapshot) :
    display.Changes 0 (standingRows before after.size) after.rows
      (display.afterAll (repaint before after)) := by
  have rows := changes_repaintRows style 0 (standingRows before after.size) after.rows
  rw [repaint, Display.afterAll_append]
  generalize display.afterAll (repaintRows 0 (standingRows before after.size) after.rows) = painted at rows
  have cursor : (painted.afterAll (repaintCursor before after)).glyphs = painted.glyphs ∧
      (painted.afterAll (repaintCursor before after)).style = painted.style :=
    glyphs_repaintCursor before after
  refine ⟨?_, ?_, cursor.2.trans rows.style⟩
  · intro k row y place found changed
    exact (rows.shows k row y place found changed).of_glyphs (congrFun cursor.1 y)
  · intro y stands
    rw [cursor.1]
    exact rows.others y stands

/-! ## Rows that stand -/

/-- A row stands in its place from a snapshot on: all that follow are of the same size and hold it
too. -/
def Snapshot.Keeps (snapshot : Snapshot) (following : List Snapshot) (y : Nat) (row : List Cell) : Prop :=
  snapshot.rows[y]? = some row ∧
    ∀ after ∈ following, after.size = snapshot.size ∧ after.rows[y]? = some row

instance (snapshot : Snapshot) (following : List Snapshot) (y : Nat) (row : List Cell) :
    Decidable (snapshot.Keeps following y row) :=
  inferInstanceAs (Decidable (_ ∧ _))

theorem Snapshot.Keeps.tail {before after : Snapshot} {rest : List Snapshot} {y : Nat} {row : List Cell}
    (keeps : before.Keeps (after :: rest) y row) : after.Keeps rest y row := by
  obtain ⟨first, others⟩ := List.forall_mem_cons.mp keeps.2
  refine ⟨first.2, ?_⟩
  intro later member
  exact ⟨(others later member).1.trans first.1.symm, (others later member).2⟩

/-- A row that stands in a snapshot and stands on from the next stands on from it, if the repaint
between them leaves it out. -/
theorem Snapshot.Keeps.cons {before : Option Snapshot} {after : Snapshot} {rest : List Snapshot}
    {y : Nat} {row : List Cell} (keeps : after.Keeps rest y row)
    (stands : (standingRows before after.size)[y]? = some row) :
    ∃ snapshot ∈ before, snapshot.Keeps (after :: rest) y row := by
  cases before with
  | none => cases stands
  | some snapshot =>
    rw [standingRows] at stands
    split at stands
    · rename_i size
      refine ⟨snapshot, rfl, stands, List.forall_mem_cons.mpr ⟨⟨size.symm, keeps.1⟩, ?_⟩⟩
      intro later member
      exact ⟨(keeps.2 later member).1.trans size.symm, (keeps.2 later member).2⟩
    · cases stands

/-- A row that stands throughout is never painted. -/
theorem glyphs_repaints {before : Snapshot} {snapshots : List Snapshot} {y : Nat} {row : List Cell}
    (style : display.style = .usual) (keeps : before.Keeps snapshots y row) :
    (display.afterAll (repaints (some before) snapshots).flatten).glyphs y = display.glyphs y := by
  induction snapshots generalizing display before with
  | nil => rfl
  | cons after rest ih =>
    have first := changes_repaint style (some before) after
    have size : before.size = after.size := (keeps.2 after List.mem_cons_self).1.symm
    rw [standingRows, if_pos size] at first
    rw [repaints, List.flatten_cons, Display.afterAll_append, ih first.style keeps.tail]
    apply first.others y
    intro k shown place found
    rw [Nat.zero_add] at place
    subst place
    rw [keeps.tail.1] at found
    rw [keeps.1, found]

/-- Any other row of the last snapshot is shown: it is painted where it last did not stand, and stands
from there on. -/
theorem shows_repaints {before : Option Snapshot} {snapshots : List Snapshot} {last : Snapshot}
    {y : Nat} {row : List Cell} (style : display.style = .usual)
    (ends : snapshots.getLast? = some last) (found : last.rows[y]? = some row)
    (changes : ¬ ∃ snapshot ∈ before, snapshot.Keeps snapshots y row) :
    (display.afterAll (repaints before snapshots).flatten).Shows y row := by
  induction snapshots generalizing display before with
  | nil => cases ends
  | cons after rest ih =>
    have first := changes_repaint style before after
    rw [repaints, List.flatten_cons, Display.afterAll_append]
    -- If the row stands from here on, this repaint is the last that paints it; if not, a later one is.
    by_cases keeps : after.Keeps rest y row
    · have painted := first.shows y row y (Nat.zero_add y).symm keeps.1
        fun stands => changes (keeps.cons stands)
      exact painted.of_glyphs (glyphs_repaints first.style keeps)
    · apply ih first.style
      · cases rest with
        | nil =>
          cases ends
          exact absurd ⟨found, List.forall_mem_nil _⟩ keeps
        | cons next others => rwa [List.getLast?_cons_cons] at ends
      · rintro ⟨snapshot, same, stands⟩
        cases same
        exact keeps stands

/-- Where a display is blank it shows no row but the empty one. -/
theorem shows_iff_of_blank {y : Nat} (blank : ∀ x, display.glyphs y x = .blank) (row : List Cell) :
    display.Shows y row ↔ row = [] := by
  constructor
  · intro shows
    cases row with
    | nil => rfl
    | cons cell rest =>
      have glyph := shows 0
      rw [blank 0] at glyph
      have colour : (none : Option Nat) = some cell.attributes.pen.foreground :=
        congrArg (fun glyph => glyph.style.foreground) glyph
      cases colour
  · rintro rfl x
    exact blank x

/-- A display that is blank in a place comes to show the row of the last snapshot there exactly if the
row is empty, or has not stood throughout. -/
theorem shows_repaints_iff {before : Option Snapshot} {snapshots : List Snapshot} {last : Snapshot}
    {y : Nat} {row : List Cell} (style : display.style = .usual)
    (blank : ∀ x, display.glyphs y x = .blank) (ends : snapshots.getLast? = some last)
    (found : last.rows[y]? = some row) :
    (display.afterAll (repaints before snapshots).flatten).Shows y row ↔
      row = [] ∨ ¬ ∃ snapshot ∈ before, snapshot.Keeps snapshots y row := by
  by_cases stands : ∃ snapshot ∈ before, snapshot.Keeps snapshots y row
  · obtain ⟨snapshot, rfl, keeps⟩ := stands
    have still : ∀ x, (display.afterAll (repaints (some snapshot) snapshots).flatten).glyphs y x =
        .blank := by
      intro x
      rw [glyphs_repaints style keeps, blank]
    rw [shows_iff_of_blank still]
    constructor
    · exact .inl
    · intro cause
      exact cause.resolve_right fun changes => changes ⟨snapshot, rfl, keeps⟩
  · constructor
    · exact fun _ => .inr stands
    · exact fun _ => shows_repaints style ends found stands

/-! ## Recordings -/

/-- Polls write the repaints of the snapshots that they take. -/
theorem polls_repaints {session : Session} {sink : Sink} (takes : sink.TakesAll)
    (readings : List (Except DeviceFault Snapshot)) :
    ∃ last after, session.polls sink readings = (.ok (), last, after) ∧
      sink.Took ((repaints session.last (readings.filterMap Except.toOption)).flatMap controlBytes)
        after := by
  induction readings generalizing session sink with
  | nil => exact ⟨session, sink, rfl, takes.nothing⟩
  | cons reading rest ih =>
    cases reading with
    | error fault => exact ih takes
    | ok snapshot =>
      obtain ⟨between, written, took⟩ :=
        writeOnce_takesAll takes (controlBytes (repaint session.last snapshot))
      obtain ⟨last, after, polled, tookMore⟩ := @ih ⟨some snapshot⟩ between took.takesAll
      refine ⟨last, after, ?_, took.trans tookMore⟩
      rw [Session.polls, Session.poll, written]
      exact polled

/-- A session that may have made recordings before makes another one, and a sink takes whatever it
writes. A blank display that is fed these bytes shows a row of the last snapshot of this recording
exactly if the row is empty, or has not stood in its place, at one size, in the last snapshot that the
session took before and in all that it took for this recording. -/
theorem record_shows_iff (session : Session) (command : String)
    (running : List (Except DeviceFault Snapshot)) (ended : Except DeviceFault Snapshot) (sink : Sink)
    (last : Snapshot) (invocation : Invocation)
    (starts : (Invocation.ofCommand command).checked = .ok invocation)
    (legible : ∀ snapshot, .ok snapshot ∈ running ++ [ended] → snapshot.Legible)
    (takes : sink.TakesAll)
    (seen : ((running ++ [ended]).filterMap Except.toOption).getLast? = some last) :
    ∃ session' after bytes, session.record command running ended sink = (.ok (), session', after) ∧
      after.accepted = sink.accepted ++ bytes ∧
      ∀ y row, last.rows[y]? = some row →
        ((Display.blank.feed bytes).Shows y row ↔
          row = [] ∨ ¬ ∃ before ∈ session.last,
            before.Keeps ((running ++ [ended]).filterMap Except.toOption) y row) := by
  obtain ⟨session', after, polled, took⟩ := polls_repaints takes (running ++ [ended])
  refine ⟨session', after, _, ?_, took.accepted, ?_⟩
  · rw [Session.record, starts, polled]
    rfl
  intro y row found
  have readable : ∀ snapshot ∈ (running ++ [ended]).filterMap Except.toOption, snapshot.Legible := by
    intro snapshot member
    obtain ⟨reading, inside, taken⟩ := List.mem_filterMap.mp member
    cases reading with
    | error fault => cases taken
    | ok other =>
      cases taken
      exact legible snapshot inside
  rw [feed_parts rfl (legible_repaints readable)]
  exact shows_repaints_iff rfl (fun _ => rfl) seen found

/-- Of a screen of which one row has changed since the recording before, only this row is shown. -/
theorem record_shows_changed_row :
    ∃ session after bytes,
      (Session.mk (some ⟨⟨10, 2, 0, 0⟩, [[⟨'a', .usual⟩], [⟨'b', .usual⟩]], .home, false⟩)).record "true"
        [.error .closed] (.ok ⟨⟨10, 2, 0, 0⟩, [[⟨'a', .usual⟩], [⟨'c', .usual⟩]], .home, false⟩)
        (.replying []) = (.ok (), session, after) ∧ after.accepted = bytes ∧
      ¬ (Display.blank.feed bytes).Shows 0 [⟨'a', .usual⟩] ∧
      (Display.blank.feed bytes).Shows 1 [⟨'c', .usual⟩] := by
  obtain ⟨session, after, bytes, recorded, accepted, rows⟩ := record_shows_iff
    ⟨some ⟨⟨10, 2, 0, 0⟩, [[⟨'a', .usual⟩], [⟨'b', .usual⟩]], .home, false⟩⟩ "true" [.error .closed]
    (.ok ⟨⟨10, 2, 0, 0⟩, [[⟨'a', .usual⟩], [⟨'c', .usual⟩]], .home, false⟩) (.replying [])
    ⟨⟨10, 2, 0, 0⟩, [[⟨'a', .usual⟩], [⟨'c', .usual⟩]], .home, false⟩ (.ofCommand "true") rfl
    (by simp [Snapshot.Legible, CodeRanges.holds, controlRanges])
    ⟨List.forall_mem_nil _, List.forall_mem_nil _⟩ rfl
  refine ⟨session, after, bytes, recorded, accepted, ?_, ?_⟩
  · rw [rows 0 _ rfl]
    decide
  · rw [rows 1 _ rfl]
    decide

/-- The second of two recordings of a screen that stays as it is shows nothing of it. -/
theorem second_recording_shows_nothing :
    ∃ session first second,
      Session.fresh.record "true" []
        (.ok ⟨⟨10, 1, 0, 0⟩, [[⟨'a', .usual⟩]], .home, false⟩) (.replying []) = (.ok (), session, first) ∧
      session.record "true" []
        (.ok ⟨⟨10, 1, 0, 0⟩, [[⟨'a', .usual⟩]], .home, false⟩) (.replying []) = (.ok (), session, second) ∧
      ¬ (Display.blank.feed second.accepted).Shows 0 [⟨'a', .usual⟩] := by
  refine ⟨_, _, _, rfl, rfl, ?_⟩
  have blank : ∀ x, Display.blank.glyphs 0 x = .blank := fun _ => rfl
  intro shows
  have empty := (shows_iff_of_blank blank _).mp shows
  cases empty

end TermTape.Console

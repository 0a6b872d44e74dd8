import TermTape.Proofs.Console.Recordings
import TermTape.Proofs.Sink.Refusals

/-!
# Rows that sinks refuse

A session remembers a snapshot whether or not its sink has taken what was written of it. So the polls
after one that failed write the repaints from the snapshot of that poll on. A row of which the sink has
not taken the painting is painted again exactly if it changes, or the size does; a screen that stays as
it is does not show the row (`lost_rows_shown_iff`).
-/
namespace TermTape.Console

variable {display : Display} {session between ended : Session} {sink cut after : Sink}
  {result : Except IoError Unit}

/-- Controls are obeyed after whatever bytes a display was fed, if these leave no sequence open. -/
theorem Display.feed_append {bytes : Bytes} (ground : (display.feed bytes).reading = .ground)
    {controls : List Control} (legible : ∀ control ∈ controls, control.Legible) :
    display.feed (bytes ++ controlBytes controls) = (display.feed bytes).afterAll controls := by
  rw [feed, controlBytes, Utf8.decodeLossy_append_encode, List.foldl_append]
  exact read_controls ground legible

/-- Of bytes that are written in one write a first part is taken, and all of them if there is no
error. -/
theorem accepted_of_writeOnce {data : Bytes} (wrote : writeOnce sink data = (result, after)) :
    ∃ count, after.accepted = sink.accepted ++ data.take count ∧
      (result = .ok () → data.take count = data) := by
  unfold writeOnce at wrote
  split at wrote
  case isTrue none =>
    obtain rfl := List.isEmpty_iff.mp none
    cases wrote
    exact ⟨0, (List.append_nil _).symm, fun _ => rfl⟩
  case isFalse =>
    split at wrote
    case h_1 taken between written =>
      obtain ⟨ended, rfl⟩ := Prod.mk.inj wrote
      refine ⟨taken, Sink.accepted_of_write written, ?_⟩
      rintro rfl
      split at ended
      case isTrue whole => rw [whole, List.take_length]
      case isFalse => cases ended
    case h_2 cause between refused =>
      cases wrote
      exact ⟨0, Sink.accepted_of_write refused, nofun⟩

/-- A poll offers the repaint from the last snapshot, and remembers the one that it has read. -/
theorem poll_ok {snapshot : Snapshot} (polled : session.poll (.ok snapshot) sink = (result, between, cut)) :
    between.last = some snapshot ∧
      writeOnce sink (controlBytes (repaint session.last snapshot)) = (result, cut) := by
  rw [Session.poll] at polled
  obtain ⟨rfl, remembered, rfl⟩ := polled
  exact ⟨rfl, rfl⟩

/-- Polls without an error write the repaints of the snapshots that they take, and all of it is taken. -/
theorem accepted_of_polls {readings : List (Except DeviceFault Snapshot)}
    (polled : session.polls sink readings = (.ok (), ended, after)) :
    after.accepted = sink.accepted ++
      controlBytes (repaints session.last (readings.filterMap Except.toOption)).flatten := by
  induction readings generalizing session sink with
  | nil =>
    cases polled
    exact (List.append_nil _).symm
  | cons reading rest ih =>
    rw [Session.polls] at polled
    split at polled
    case h_1 between middle first =>
      rw [ih polled]
      cases reading with
      | error fault =>
        cases first
        rfl
      | ok snapshot =>
        obtain ⟨remembered, wrote⟩ := poll_ok first
        obtain ⟨count, accepted, whole⟩ := accepted_of_writeOnce wrote
        rw [accepted, whole rfl, remembered, List.append_assoc, ← controlBytes_append]
        rfl
    case h_2 failed => exact absurd polled (failed () ended after)

/-- A snapshot that is taken was read. -/
theorem ok_mem_of_taken {readings : List (Except DeviceFault Snapshot)} {snapshot : Snapshot}
    (taken : snapshot ∈ readings.filterMap Except.toOption) : .ok snapshot ∈ readings := by
  obtain ⟨reading, inside, same⟩ := List.mem_filterMap.mp taken
  cases reading with
  | error fault => cases same
  | ok other =>
    cases same
    exact inside

/-- After a poll, whatever came before it and whatever the sink did, polls go on without an error. The
sink has taken a first part of the repaint of that poll, and takes all of the repaints from its snapshot
on. So if what it had taken leaves a display in its own style and no sequence open, the display comes to
show a row of the last snapshot exactly if it shows the row already, or the row has not stood in its
place, at one size, from the snapshot of that poll on. -/
theorem lost_rows_shown_iff (display : Display) {lost last : Snapshot}
    {later : List (Except DeviceFault Snapshot)}
    (polled : session.poll (.ok lost) sink = (result, between, cut))
    (resumed : between.polls cut later = (.ok (), ended, after))
    (legible : ∀ snapshot, .ok snapshot ∈ later → snapshot.Legible)
    (seen : (lost :: later.filterMap Except.toOption).getLast? = some last) :
    (∃ count, cut.accepted = sink.accepted ++ (controlBytes (repaint session.last lost)).take count) ∧
      after.accepted = cut.accepted ++
        controlBytes (repaints (some lost) (later.filterMap Except.toOption)).flatten ∧
      ((display.feed cut.accepted).reading = .ground → (display.feed cut.accepted).style = .usual →
        ∀ y row, last.rows[y]? = some row →
          ((display.feed after.accepted).Shows y row ↔
            (lost.Keeps (later.filterMap Except.toOption) y row →
              (display.feed cut.accepted).Shows y row))) := by
  obtain ⟨remembered, wrote⟩ := poll_ok polled
  obtain ⟨count, part, -⟩ := accepted_of_writeOnce wrote
  have rest := accepted_of_polls resumed
  rw [remembered] at rest
  refine ⟨⟨count, part⟩, rest, ?_⟩
  intro ground style y row found
  have readable : ∀ control ∈ (repaints (some lost) (later.filterMap Except.toOption)).flatten,
      control.Legible := by
    intro control member
    obtain ⟨controls, among, inside⟩ := List.mem_flatten.mp member
    refine legible_repaints ?_ controls among control inside
    intro snapshot taken
    exact legible snapshot (ok_mem_of_taken taken)
  rw [rest, Display.feed_append ground readable]
  -- A row that stands throughout is in no repaint; a row that does not is in one of them.
  by_cases keeps : lost.Keeps (later.filterMap Except.toOption) y row
  · have same := glyphs_repaints style keeps
    constructor
    · exact fun shows _ => shows.of_glyphs same.symm
    · exact fun shows => (shows keeps).of_glyphs same
  · constructor
    · exact fun _ kept => absurd kept keeps
    · intro _
      cases snapshots : later.filterMap Except.toOption with
      | nil =>
        -- Then the lost snapshot is the last one, whose rows all stand.
        rw [snapshots] at seen keeps
        cases seen
        exact absurd ⟨found, List.forall_mem_nil _⟩ keeps
      | cons next others =>
        rw [snapshots, List.getLast?_cons_cons] at seen
        apply shows_repaints style seen found
        rintro ⟨snapshot, same, stands⟩
        cases same
        rw [snapshots] at keeps
        exact keeps stands

/-- A sink takes the first of three rows. Of the other two the one that changes is shown then. -/
theorem lost_row_shown_if_changed :
    let screen (last : Char) : Snapshot :=
      ⟨⟨10, 3, 0, 0⟩, [[⟨'a', .usual⟩], [⟨'b', .usual⟩], [⟨last, .usual⟩]], .home, false⟩
    ∃ result between cut ended after,
      Session.fresh.poll (.ok (screen 'c')) (.replying [.upTo 23]) = (result, between, cut) ∧
      between.polls cut [.ok (screen 'd')] = (.ok (), ended, after) ∧
      (Display.blank.feed after.accepted).Shows 0 [⟨'a', .usual⟩] ∧
      ¬ (Display.blank.feed after.accepted).Shows 1 [⟨'b', .usual⟩] ∧
      (Display.blank.feed after.accepted).Shows 2 [⟨'d', .usual⟩] := by
  intro screen
  obtain ⟨result, between, cut, ended, after, polled, resumed, taken⟩ : ∃ result between cut ended after,
      Session.fresh.poll (.ok (screen 'c')) (.replying [.upTo 23]) = (result, between, cut) ∧
      between.polls cut [.ok (screen 'd')] = (.ok (), ended, after) ∧
      cut.accepted = controlBytes (paintRow 0 [⟨'a', .usual⟩]) := ⟨_, _, _, _, _, rfl, rfl, by decide⟩
  have legible : ∀ control ∈ paintRow 0 [⟨'a', .usual⟩], control.Legible := by
    simp [paintRow, paintCells, Control.Legible, Attributes.coded_pen, CodeRanges.holds, controlRanges]
  obtain ⟨-, -, rows⟩ := lost_rows_shown_iff .blank polled resumed
    (by simp [screen, Snapshot.Legible, CodeRanges.holds, controlRanges]) rfl
  have painted : Display.blank.Repaints 0 [[⟨'a', .usual⟩]]
      (Display.blank.afterAll (paintRow 0 [⟨'a', .usual⟩])) := repaints_paintRow rfl 0 _
  rw [taken, Display.feed_controlBytes rfl legible] at rows
  specialize rows painted.keeps.reading painted.style
  refine ⟨result, between, cut, ended, after, polled, resumed, ?_, ?_, ?_⟩
  · rw [rows 0 _ rfl]
    exact fun _ => painted.shows 0 _ rfl
  · rw [rows 1 _ rfl]
    intro shows
    have blank : ∀ x, (Display.blank.afterAll (paintRow 0 [⟨'a', .usual⟩])).glyphs 1 x = .blank :=
      fun x => congrFun (painted.others 1 (.inr (by decide))) x
    have empty := (shows_iff_of_blank blank _).mp (shows (by decide))
    cases empty
  · rw [rows 2 _ rfl]
    intro keeps
    exact absurd keeps (by decide)

/-- A row that a sink refuses is not painted again by the next poll of the same screen. -/
theorem refused_row_stays_lost :
    ¬ ∀ (snapshot : Snapshot) (replies : List WriteReply) (cause : IoError) (between ended : Session)
        (cut after : Sink), snapshot.Legible →
      Session.fresh.poll (.ok snapshot) (.replying replies) = (.error cause, between, cut) →
      between.poll (.ok snapshot) cut = (.ok (), ended, after) →
      ∀ y row, snapshot.rows[y]? = some row → (Display.blank.feed after.accepted).Shows y row := by
  intro shown
  have legible : Snapshot.Legible ⟨⟨10, 1, 0, 0⟩, [[⟨'a', .usual⟩]], .home, false⟩ := by
    simp [Snapshot.Legible, CodeRanges.holds, controlRanges]
  have shows := shown _ [.fail .brokenPipe] _ _ _ _ _ legible rfl rfl 0 _ rfl
  have empty := (shows_iff_of_blank (fun _ => rfl) _).mp shows
  cases empty

end TermTape.Console

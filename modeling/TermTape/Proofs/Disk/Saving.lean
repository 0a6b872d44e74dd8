import TermTape.Disk.Basic
import TermTape.Proofs.Json.Reading

/-!
# Saving

A file that is put where no directory stands is read back at any path that leads there (`read_put`),
and leaves every other place as it was (`node_put_of_ne`). A save makes its file empty before it looks
at the recording, so a save that fails keeps what was there only if it could not make the file, or if
the file was empty before (`save_keeps_iff`).
-/
namespace TermTape.Disk

variable {disk : Disk} {place : Place} {data : Bytes}

/-! ## Nodes -/

private theorem node_put (node : Node) (below : place ≠ []) :
    (disk.put place node).node? place = some node := by
  simp [node?, put, below]

private theorem node_put_of_ne (node : Node) {other : Place} (ne : other ≠ place) :
    (disk.put place node).node? other = disk.node? other := by
  have key : (other == place) = false := beq_eq_false_iff_ne.mpr ne
  simp [node?, put, List.lookup_cons, key]

/-! ## Paths -/

/-- A directory that is entered is still entered once a file is put where no directory stands. -/
theorem enter_put (free : disk.node? place ≠ some .directory) {outer inner : Place} {name : List Char}
    (entered : disk.enter outer name = .ok inner) :
    (disk.put place (.file data)).enter outer name = .ok inner := by
  unfold enter at entered ⊢
  by_cases same : name = here
  · rwa [if_pos same] at entered ⊢
  by_cases up : name = above
  · rwa [if_neg same, if_pos up] at entered ⊢
  rw [if_neg same, if_neg up] at entered ⊢
  obtain ⟨_, short, found⟩ := ok_of_bind entered
  rw [short]
  have directory : disk.node? (outer ++ [name]) = some .directory := by
    cases node : disk.node? (outer ++ [name]) with
    | none => simp [node] at found
    | some node' =>
      cases node' with
      | directory => rfl
      | file => simp [node] at found
  -- The file is put where no directory stands, so it is not put in the place that is entered.
  have other : outer ++ [name] ≠ place := by
    rintro rfl
    exact free directory
  have kept : (disk.put place (.file data)).node? (outer ++ [name]) = some .directory := by
    rw [node_put_of_ne _ other, directory]
  simp only [bind, Except.bind, kept]
  simpa only [directory] using found

private theorem foldlM_enter_put (free : disk.node? place ≠ some .directory)
    (names : List (List Char))
    {outer inner : Place} (entered : names.foldlM disk.enter outer = .ok inner) :
    names.foldlM (disk.put place (.file data)).enter outer = .ok inner := by
  induction names generalizing outer with
  | nil => exact entered
  | cons name rest ih =>
    rw [List.foldlM_cons] at entered ⊢
    obtain ⟨middle, first, others⟩ := ok_of_bind entered
    rw [enter_put free first]
    exact ih others

/-- A path still leads where it did. -/
theorem target_put (free : disk.node? place ≠ some .directory) {path : String} {goal : Target}
    (leads : disk.target path = .ok goal) : (disk.put place (.file data)).target path = .ok goal := by
  unfold target at leads ⊢
  dsimp only at leads ⊢
  split at leads
  · cases leads
  rename_i plain
  rw [if_neg plain]
  split at leads
  · cases leads
  rename_i filled
  rw [if_neg filled]
  split at leads
  · cases leads
  rename_i short
  rw [if_neg short]
  cases last : (namesOf path).getLast? with
  | none =>
    rw [last] at leads
    exact leads
  | some name =>
    rw [last] at leads
    obtain ⟨directory, walked, rest⟩ := ok_of_bind leads
    have start : (disk.put place (.file data)).startOf path = disk.startOf path := rfl
    rw [start, foldlM_enter_put free _ walked]
    exact rest

/-! ## Files -/

/-- A place that may be written at a path is a name in a directory to which the path leads, and no
directory itself. -/
theorem target_of_writable {path : String} (writable : disk.writable path = .ok place) :
    ∃ directory name, disk.target path = .ok (.named directory name false) ∧
      checkName name = .ok () ∧ place = directory ++ [name] ∧
      disk.node? place ≠ some .directory := by
  obtain ⟨goal, leads, writable⟩ := ok_of_bind writable
  cases goal with
  | directory => cases writable
  | named directory name slashed =>
    cases slashed with
    | true => cases writable
    | false =>
      obtain ⟨_, short, writable⟩ := ok_of_bind writable
      split at writable
      · cases writable
      · rename_i free
        cases writable
        exact ⟨directory, name, leads, short, rfl, free⟩

/-- A file that is put at the place of a path is read back there. -/
theorem read_put {path : String} (writable : disk.writable path = .ok place) :
    (disk.put place (.file data)).read path = .ok data := by
  obtain ⟨directory, name, leads, short, rfl, free⟩ := target_of_writable writable
  have leads' : (disk.put (directory ++ [name]) (.file data)).target path =
      .ok (.named directory name false) := target_put free leads
  have node : (disk.put (directory ++ [name]) (.file data)).node? (directory ++ [name]) =
      some (.file data) := node_put _ (by simp)
  rw [read, leads']
  simp [short, node, bind, Except.bind]

/-! ## Recordings -/

section Saved

variable {path : String} {recording : Recording} {result : Except Fault Unit} {after : Disk}

/-- What a save can do: it fails at the file, it fails at the recording and leaves an empty file, or
it leaves the document in the file. -/
theorem save_cases (saved : disk.save path recording = (result, after)) :
    (∃ cause, disk.writable path = .error cause ∧
        result = .error (.ioContext ("creating " ++ path) cause) ∧ after = disk) ∨
      (∃ place reason, disk.writable path = .ok place ∧ recording.encode = .error reason ∧
        result = .error (.ofDocument reason) ∧ after = disk.put place (.file [])) ∨
      ∃ place document, disk.writable path = .ok place ∧ recording.encode = .ok document ∧
        result = .ok () ∧ after = disk.put place (.file (textBytes document)) := by
  unfold save at saved
  cases writable : disk.writable path with
  | error cause =>
    rw [writable] at saved
    obtain ⟨rfl, rfl⟩ := Prod.mk.inj saved
    exact .inl ⟨cause, rfl, rfl, rfl⟩
  | ok place =>
    cases encoded : recording.encode with
    | error reason =>
      rw [writable, encoded] at saved
      obtain ⟨rfl, rfl⟩ := Prod.mk.inj saved
      exact .inr (.inl ⟨place, reason, rfl, rfl, rfl, rfl⟩)
    | ok document =>
      rw [writable, encoded] at saved
      obtain ⟨rfl, rfl⟩ := Prod.mk.inj saved
      exact .inr (.inr ⟨place, document, rfl, rfl, rfl, rfl⟩)

/-- A save leaves every place as it was but the one where its path leads. -/
theorem node_save (saved : disk.save path recording = (result, after))
    (other : disk.writable path ≠ .ok place) : after.node? place = disk.node? place := by
  obtain ⟨_, _, _, rfl⟩ | ⟨target, _, writable, _, _, rfl⟩ | ⟨target, _, writable, _, _, rfl⟩ :=
    save_cases saved
  · rfl
  all_goals
    apply node_put_of_ne
    rintro rfl
    exact other writable

/-- A save that fails leaves the disk as it was if the file could not be made, and an empty file if
the recording has no document. -/
theorem read_of_save_error {fault : Fault} (saved : disk.save path recording = (.error fault, after)) :
    (∃ cause, disk.writable path = .error cause) ∧ after = disk ∨
      (∃ place, disk.writable path = .ok place) ∧ (∃ reason, recording.encode = .error reason) ∧
        after.read path = .ok [] := by
  obtain ⟨cause, unwritable, _, rfl⟩ | ⟨place, reason, writable, failed, _, rfl⟩ |
    ⟨_, _, _, _, done, _⟩ := save_cases saved
  · exact .inl ⟨⟨cause, unwritable⟩, rfl⟩
  · exact .inr ⟨⟨place, writable⟩, ⟨reason, failed⟩, read_put writable⟩
  · cases done

/-- A save that does not fail leaves the document in the file, and nothing else. -/
theorem read_of_save_ok (saved : disk.save path recording = (.ok (), after)) :
    ∃ document, recording.encode = .ok document ∧ after.read path = .ok (textBytes document) := by
  obtain ⟨_, _, failed, _⟩ | ⟨_, _, _, _, failed, _⟩ | ⟨place, document, writable, encoded, _, rfl⟩ :=
    save_cases saved
  · cases failed
  · cases failed
  · exact ⟨document, encoded, read_put writable⟩

end Saved

/-- A recording is saved, or a save fails. Every place but the one where the path leads stays as it
was. A save that fails leaves the disk as it was if the file could not be made, and an empty file if
the recording has no document; so it keeps what is read at the path exactly in the first case, or if
the file was empty before. A save that succeeds leaves the document of the recording there, and
nothing else. -/
theorem save_keeps_iff (disk : Disk) (path : String) (recording : Recording) :
    ∃ result after, disk.save path recording = (result, after) ∧
      (∀ place, disk.writable path ≠ .ok place → after.node? place = disk.node? place) ∧
      (∀ fault, result = .error fault →
        ((∃ cause, disk.writable path = .error cause) ∧ after = disk ∨
          (∃ reason, recording.encode = .error reason) ∧ after.read path = .ok []) ∧
        (after.read path = disk.read path ↔
          (∃ cause, disk.writable path = .error cause) ∨ disk.read path = .ok [])) ∧
      (result = .ok () → ∃ document, recording.encode = .ok document ∧
        after.read path = .ok (textBytes document) ∧
        after.load path = (Recording.decode (textBytes document)).mapError .ofDocument) := by
  obtain ⟨result, after, saved⟩ : ∃ result after, disk.save path recording = (result, after) :=
    ⟨_, _, rfl⟩
  refine ⟨result, after, saved, fun place other => node_save saved other, ?_, ?_⟩
  · rintro fault rfl
    obtain ⟨unwritable, rfl⟩ | ⟨⟨place, writable⟩, unencodable, empty⟩ := read_of_save_error saved
    · exact ⟨.inl ⟨unwritable, rfl⟩, fun _ => .inl unwritable, fun _ => rfl⟩
    · refine ⟨.inr ⟨unencodable, empty⟩, ?_⟩
      rw [empty]
      constructor
      · exact fun same => .inr same.symm
      · rintro (⟨cause, unwritable⟩ | before)
        · rw [writable] at unwritable
          cases unwritable
        · exact before.symm
  · rintro rfl
    obtain ⟨document, encoded, contents⟩ := read_of_save_ok saved
    refine ⟨document, encoded, contents, ?_⟩
    rw [load, Disk.contents, contents]
    rfl

/-- A save of a recording that has no document does not keep the file that stood at its path. -/
theorem save_empties_file :
    ¬ ∀ (disk : Disk) (path : String) (recording : Recording) (fault : Fault) (after : Disk),
      disk.save path recording = (.error fault, after) → after.read path = disk.read path := by
  intro keeps
  have kept := keeps ((blank "home").plant "a.json" [0x6f, 0x6c, 0x64]) "a.json"
    { Recording.ofFrames 1 1 [] with duration := .nan } _ _ rfl
  cases kept

end TermTape.Disk

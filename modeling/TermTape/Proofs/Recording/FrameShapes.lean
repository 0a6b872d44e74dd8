import Mathlib.Data.List.Forall2
import TermTape.Proofs.Json.Numerals
import TermTape.Proofs.Recording.Document
import TermTape.Proofs.Recording.StrictTexts
import TermTape.Proofs.Recording.TwoPasses

/-!
# Values that are frames

A value of the grammar is decoded as a frame exactly when it is a list of two items, a number that
is finite and not below zero and a string (`decodeFrame_eq_ok`). Values are decoded as frames one
after another, and the first that is none is the one that the fault names (`decodeFrames_error`).
-/
namespace TermTape

open Json (Ending Gives Blank Spaces Letters Numeral IsValue Item ReadsItem quotes listText
  laterParts afterItem byte)

/-! ## Shapes -/

/-- The value is a list of two items: a number, which is finite and not below zero, and a string. -/
structure FrameShape (value : List Char) (numeral : Numeral) (letters : List Char) : Prop where
  pair : ∃ first second : Item, value = listText [] [first, second] ∧ first.Spaced ∧
    second.Spaced ∧ first.value = numeral.text ∧ second.value = quotes letters
  string : Letters letters
  finite : numeral.value.isFinite = true
  forward : numeral.value.isBelowZero = false

/-- The value has the shape of a frame. -/
def IsFrame (value : List Char) : Prop := ∃ numeral letters, FrameShape value numeral letters

/-- The value has the shape of a frame, with this number and this text without its escapes. -/
def GivesFrame (value : List Char) (frame : Frame) : Prop :=
  ∃ numeral letters, FrameShape value numeral letters ∧ frame.delay = numeral.value ∧
    FrameText.decode (Utf8.encode (quotes letters)) = .ok frame.data

/-- Every string of the grammar is a frame text. -/
theorem exists_decode_quotes {letters : List Char} (string : Letters letters) :
    ∃ data, FrameText.decode (Utf8.encode (quotes letters)) = .ok data := by
  obtain ⟨tokens, splits⟩ := FrameText.splits_of_stringBody string.body
  rw [Json.encode_quotes, FrameText.decode_quoted]
  exact ⟨_, FrameText.decodeBody_of_splits splits []⟩

theorem isFrame_iff {value : List Char} : IsFrame value ↔ ∃ frame, GivesFrame value frame := by
  constructor
  · rintro ⟨numeral, letters, shape⟩
    obtain ⟨data, decoded⟩ := exists_decode_quotes shape.string
    exact ⟨⟨numeral.value, data⟩, numeral, letters, shape, rfl, decoded⟩
  · rintro ⟨frame, numeral, letters, shape, -⟩
    exact ⟨numeral, letters, shape⟩

theorem isValue_of_isFrame {value : List Char} (frame : IsFrame value) : IsValue value := by
  obtain ⟨numeral, letters, ⟨first, second, rfl, spaced, spaced₂, number, text⟩, string, -, -⟩ := frame
  refine .list (List.forall_mem_nil _) ?_ ?_
  · exact List.forall_mem_cons.mpr ⟨spaced, List.forall_mem_singleton.mpr spaced₂⟩
  · refine List.forall_mem_cons.mpr ⟨number ▸ .number numeral, ?_⟩
    exact List.forall_mem_singleton.mpr (text ▸ .string string)

/-- Only a string is decoded as a frame text. -/
theorem string_of_decode {value : List Char} {data : Bytes} (valid : IsValue value)
    (decoded : FrameText.decode (Utf8.encode value) = .ok data) :
    ∃ letters, Letters letters ∧ value = quotes letters := by
  obtain ⟨inner, text⟩ : ∃ inner, Utf8.encode value = Json.quoted inner := by
    rw [FrameText.decode] at decoded
    split at decoded
    · exact ⟨_, FrameText.between?_eq_some.mp ‹_›⟩
    · cases decoded
  obtain ⟨b, more, first, begins⟩ := valid.begins
  exact begins.string (List.cons.inj (first.symm.trans text)).1

namespace Recording

/-! ## Pairs -/

/-- The pair of a list is read from inside its brackets. -/
theorem readPair_cons (rest : Bytes) :
    readPair (byte '[' :: rest) = (do
      let (pair, ⟨left, _⟩) ← framePair rest
      let ⟨last, _⟩ ← Json.closeList .ends left
      Json.readEnd .ends last
      .ok pair) := by
  have next : Json.skipGap (byte '[' :: rest) = byte '[' :: rest := Json.skipGap_cons rfl rest
  unfold readPair Json.readBracketed
  split
  · simp_all
  · rename_i h
    rw [next] at h
    cases h
    cases framePair rest with
    | error fault => rfl
    | ok result =>
      obtain ⟨pair, left, h⟩ := result
      simp only [bind, Except.bind, beq_self_eq_true, if_true]
      cases Json.closeList .ends left <;> rfl

/-- What begins as no list is no pair. -/
theorem readPair_refused {raw rest : Bytes} {b : UInt8} (text : raw = b :: rest)
    (solid : Json.isGap b = false) (other : b ≠ byte '[') : ∃ fault, readPair raw = .error fault := by
  cases read : readPair raw with
  | error fault => exact ⟨fault, rfl⟩
  | ok pair =>
    obtain ⟨⟨_, _⟩, bracketed, -⟩ := ok_of_bind read
    have next : Json.skipGap raw = b :: rest := text ▸ Json.skipGap_cons solid rest
    unfold Json.readBracketed at bracketed
    split at bracketed
    · simp_all
    · rename_i h
      rw [next] at h
      cases h
      simp only [beq_iff_eq, other, if_false] at bracketed
      split at bracketed <;> exact absurd bracketed Json.refuseKind_ne_ok

private theorem readPair_list (gap : List Char) (items : List Item) :
    readPair (Utf8.encode (listText gap items)) = (do
      let (pair, ⟨left, _⟩) ←
        framePair (Utf8.encode (Json.interior gap (items.map Item.text)) ++ [byte ']'])
      let ⟨last, _⟩ ← Json.closeList .ends left
      Json.readEnd .ends last
      .ok pair) := by
  rw [listText, Json.encode_bracketed]
  exact readPair_cons _

section Items

variable {gap : List Char} {first second : Item} {items : List Item} {rest : Bytes}

private theorem readsItem_number {numeral : Numeral} (spaced : first.Spaced)
    (number : first.value = numeral.text) (finite : numeral.value.isFinite = true) :
    ReadsItem (Json.readReal .ends) first numeral.value := by
  refine ⟨first.stands_of_isValue spaced (number ▸ .number numeral), ?_⟩
  intro gap d rest blank delimits
  rw [number]
  exact (Json.readReal_numeral blank numeral delimits).1 finite

/-- The first item is refused as a delay unless it is a finite number. -/
theorem nextField_first (stands : first.Stands) (valid : IsValue first.value)
    (items : List Item) (rest : Bytes) :
    (∃ numeral : Numeral, first.value = numeral.text ∧ numeral.value.isFinite = true) ∨
      ∃ fault, Json.nextField .ends true (Json.readReal .ends)
        (Utf8.encode first.text ++ (laterParts (items.map Item.text) ++ byte ']' :: rest)) =
          .error fault := by
  have next := stands.first .ends (laterParts (items.map Item.text) ++ byte ']' :: rest)
  obtain ⟨d, after, follows, delimits⟩ :=
    Json.delimits_after .list stands.spaced.after (items.map Item.text) rest
  change _ ++ (_ ++ byte ']' :: rest) = d :: after at follows
  rw [follows] at next
  rcases Json.readReal_value valid delimits after with ⟨numeral, number, finite⟩ | ⟨fault, refused⟩
  · exact .inl ⟨numeral, number, finite⟩
  · exact .inr ⟨fault, Json.nextField_refused next refused⟩

private theorem framePair_two (gap : List Char) {numeral : Numeral} (spaced : first.Spaced)
    (number : first.value = numeral.text) (finite : numeral.value.isFinite = true)
    (spaced₂ : second.Spaced) (valid : IsValue second.value) (items : List Item) (rest : Bytes) :
    Gives (framePair (Utf8.encode (Json.interior gap ((first :: second :: items).map Item.text)) ++
        byte ']' :: rest)) (numeral.value, Utf8.encode second.value)
      (afterItem second items rest) :=
  framePair_gives ((readsItem_number spaced number finite).nextField_first .ends gap _ rest)
    ((ReadsItem.raw .ends spaced₂ valid).nextField_later .ends spaced.after.blank items rest)

/-- A list of a finite number and one more value is a pair. -/
theorem readPair_two (gap : List Char) {numeral : Numeral} (spaced : first.Spaced)
    (number : first.value = numeral.text) (finite : numeral.value.isFinite = true)
    (spaced₂ : second.Spaced) (valid : IsValue second.value) :
    readPair (Utf8.encode (listText gap [first, second])) =
      .ok (numeral.value, Utf8.encode second.value) := by
  obtain ⟨h, pair⟩ : Gives (framePair (Utf8.encode (Json.interior gap _) ++ _)) _ _ :=
    framePair_two gap spaced number finite spaced₂ valid [] []
  have next : Json.skipGap (afterItem second [] []) = [byte ']'] :=
    Json.skipGap_solid spaced₂.after.blank rfl []
  obtain ⟨h₂, close⟩ : Json.Leaves (Json.closeList .ends _) [] := Json.closeList_leaves next
  rw [readPair_list, pair]
  simp only [bind, Except.bind, close]
  rfl

/-- The pair of a list comes from its first two items. -/
theorem items_of_framePair {pair : Binary64 × Bytes} {left : Bytes} (blank : Spaces gap)
    (values : ∀ item ∈ items, item.Stands ∧ IsValue item.value)
    (framed : Gives (framePair (Utf8.encode (Json.interior gap (items.map Item.text)) ++
      byte ']' :: rest)) pair left) :
    ∃ first second more, ∃ numeral : Numeral, items = first :: second :: more ∧
      first.value = numeral.text ∧ numeral.value.isFinite = true ∧
      pair = (numeral.value, Utf8.encode second.value) ∧ left = afterItem second more rest := by
  cases items with
  | nil =>
    have next : Json.skipGap (Utf8.encode (Json.interior gap ([].map Item.text)) ++ byte ']' :: rest) =
        byte ']' :: rest := Json.skipGap_solid blank.blank rfl rest
    obtain ⟨_, none⟩ := Json.nextField_end .ends (Json.readReal .ends) true next
    obtain ⟨_, framed⟩ := framed
    simp [framePair, none, bind, Except.bind] at framed
  | cons first items =>
    obtain ⟨⟨stands, valid⟩, others⟩ := List.forall_mem_cons.mp values
    rcases nextField_first stands valid items rest with ⟨numeral, number, finite⟩ | ⟨fault, refused⟩
    · cases items with
      | nil =>
        have next : Json.skipGap (afterItem first [] rest) = byte ']' :: rest :=
          Json.skipGap_solid stands.spaced.after.blank rfl rest
        obtain ⟨_, delay⟩ :=
          (readsItem_number stands.spaced number finite).nextField_first .ends gap [] rest
        obtain ⟨_, none⟩ := Json.nextField_end .ends (Json.readRaw .ends) false next
        obtain ⟨_, framed⟩ := framed
        simp [framePair, delay, none, bind, Except.bind] at framed
      | cons second items =>
        obtain ⟨⟨stands₂, valid₂⟩, -⟩ := List.forall_mem_cons.mp others
        have given := framePair_two gap stands.spaced number finite stands₂.spaced valid₂ items rest
        obtain ⟨same, rest⟩ := framed.unique given
        exact ⟨first, second, items, numeral, rfl, number, finite, same, rest⟩
    · rw [List.map_cons, Json.encode_interior_cons] at framed
      obtain ⟨_, framed⟩ := framed
      simp [framePair, refused, bind, Except.bind] at framed

/-- A list is a pair only of a finite number and one more value. -/
theorem items_of_readPair {pair : Binary64 × Bytes} (blank : Spaces gap)
    (values : ∀ item ∈ items, item.Stands ∧ IsValue item.value)
    (read : readPair (Utf8.encode (listText gap items)) = .ok pair) :
    ∃ first second, ∃ numeral : Numeral, items = [first, second] ∧ first.value = numeral.text ∧
      numeral.value.isFinite = true ∧ pair = (numeral.value, Utf8.encode second.value) := by
  rw [readPair_list] at read
  obtain ⟨⟨pair, left, h⟩, framed, read⟩ := ok_of_bind read
  obtain ⟨⟨last, h₂⟩, closed, read⟩ := ok_of_bind read
  obtain ⟨_, -, read⟩ := ok_of_bind read
  obtain rfl := Except.ok.inj read
  obtain ⟨first, second, more, numeral, rfl, number, finite, same, rfl⟩ :=
    items_of_framePair blank values ⟨h, framed⟩
  cases more with
  | nil => exact ⟨first, second, numeral, rfl, number, finite, same⟩
  | cons third more =>
    obtain ⟨⟨stands, -⟩, -⟩ := List.forall_mem_cons.mp (List.forall_mem_cons.mp values).2
    have next : ∃ rest, Json.skipGap (afterItem second (third :: more) []) = byte ',' :: rest := by
      rw [afterItem, List.map_cons, Json.laterParts_cons]
      exact ⟨_, Json.skipGap_solid stands.spaced.after.blank rfl _⟩
    obtain ⟨rest, next⟩ := next
    exact absurd closed (Json.closeList_ne_ok next (by decide) _)

end Items

/-! ## Frames -/

private theorem decodeFrame_of_shape {value : List Char} {numeral : Numeral} {letters : List Char}
    (shape : FrameShape value numeral letters) {data : Bytes}
    (decoded : FrameText.decode (Utf8.encode (quotes letters)) = .ok data) :
    decodeFrame (Utf8.encode value) = .ok ⟨numeral.value, data⟩ := by
  obtain ⟨⟨first, second, rfl, spaced, spaced₂, number, string⟩, letters, finite, forward⟩ := shape
  have valid : IsValue second.value := string ▸ .string letters
  have read := readPair_two [] spaced number finite spaced₂ valid
  rw [decodeFrame, read, string]
  simp [Except.mapError, finite, forward, decoded, bind, Except.bind]

private theorem givesFrame_of_decodeFrame {value : List Char} {frame : Frame}
    (valid : IsValue value)
    (read : decodeFrame (Utf8.encode value) = .ok frame) : GivesFrame value frame := by
  obtain ⟨pair, read, later⟩ := ok_of_bind read
  have read := ok_of_mapError read
  obtain ⟨b, more, text, begins⟩ := valid.begins
  by_cases opening : b = byte '['
  · obtain ⟨gap, items, blank, values, rfl⟩ := begins.list opening
    obtain ⟨first, second, numeral, rfl, number, finite, rfl⟩ := items_of_readPair blank values read
    obtain ⟨⟨stands, -⟩, others⟩ := List.forall_mem_cons.mp values
    obtain ⟨⟨stands₂, valid₂⟩, -⟩ := List.forall_mem_cons.mp others
    simp only [finite, Bool.true_and] at later
    split at later
    · rename_i forward
      obtain ⟨data, decoded, made⟩ := ok_of_bind later
      have decoded := ok_of_mapError decoded
      obtain rfl := Except.ok.inj made
      obtain ⟨letters, string, quoted⟩ := string_of_decode valid₂ decoded
      have shape : FrameShape (listText gap [first, second]) numeral letters :=
        ⟨⟨first, second, rfl, stands.spaced, stands₂.spaced, number, quoted⟩, string, finite,
          by simpa using forward⟩
      exact ⟨numeral, letters, shape, rfl, quoted ▸ decoded⟩
    · cases later
  · obtain ⟨fault, refused⟩ := readPair_refused text begins.solid opening
    cases read.symm.trans refused

/-- A value is decoded as a frame exactly when it has the shape of one. -/
theorem decodeFrame_eq_ok {value : List Char} {frame : Frame} (valid : IsValue value) :
    decodeFrame (Utf8.encode value) = .ok frame ↔ GivesFrame value frame := by
  refine ⟨givesFrame_of_decodeFrame valid, ?_⟩
  rintro ⟨numeral, letters, shape, delay, decoded⟩
  rw [decodeFrame_of_shape shape decoded, ← delay]

theorem decodes_iff_isFrame {value : List Char} (valid : IsValue value) :
    (∃ frame, decodeFrame (Utf8.encode value) = .ok frame) ↔ IsFrame value := by
  rw [isFrame_iff]
  exact exists_congr fun frame => decodeFrame_eq_ok valid

/-! ## Frames one after another -/

theorem decodeFrames_eq_ok {index : Nat} {raws : List Bytes} {frames : List Frame} :
    decodeFrames index raws = .ok frames ↔
      List.Forall₂ (fun raw frame => decodeFrame raw = .ok frame) raws frames := by
  induction raws generalizing index frames with
  | nil =>
    rw [List.forall₂_nil_left_iff, decodeFrames, Except.ok.injEq, eq_comm]
  | cons raw raws ih =>
    rw [List.forall₂_cons_left_iff, decodeFrames]
    cases first : decodeFrame raw with
    | error cause => simp
    | ok frame =>
      constructor
      · intro read
        obtain ⟨others, later, rfl⟩ := ok_of_map read
        exact ⟨frame, others, rfl, ih.mp later, rfl⟩
      · rintro ⟨_, others, same, later, rfl⟩
        obtain rfl := Except.ok.inj same
        simp only [ih.mpr later, Except.map]

/-- The fault of frames names the first one that is none. -/
theorem decodeFrames_error {index : Nat} {raws : List Bytes} {fault : DocumentFault}
    (refused : decodeFrames index raws = .error fault) :
    ∃ front raw back cause, raws = front ++ raw :: back ∧
      (∀ earlier ∈ front, ∃ frame, decodeFrame earlier = .ok frame) ∧
      decodeFrame raw = .error cause ∧ fault = .inFrame (index + front.length) cause := by
  induction raws generalizing index with
  | nil => cases refused
  | cons raw raws ih =>
    rw [decodeFrames] at refused
    cases first : decodeFrame raw with
    | error cause =>
      rw [first] at refused
      exact ⟨[], raw, raws, cause, rfl, List.forall_mem_nil _, first, (Except.error.inj refused).symm⟩
    | ok frame =>
      rw [first] at refused
      cases later : decodeFrames (index + 1) raws with
      | ok frames =>
        rw [later] at refused
        cases refused
      | error fault' =>
        rw [later] at refused
        obtain rfl := Except.error.inj refused
        obtain ⟨front, bad, back, cause, rfl, earlier, none, same⟩ := ih later
        refine ⟨raw :: front, bad, back, cause, rfl, ?_, none, ?_⟩
        · exact List.forall_mem_cons.mpr ⟨⟨frame, first⟩, earlier⟩
        · rw [same, List.length_cons, Nat.add_assoc, Nat.add_comm 1]

end Recording
end TermTape

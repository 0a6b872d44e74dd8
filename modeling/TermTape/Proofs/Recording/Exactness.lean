import TermTape.Fault
import TermTape.Proofs.Recording.DocumentShapes

/-!
# Frames of documents, all or none

A document that is an object is a recording exactly when every item of `stdout` is a frame, and
otherwise the fault names the first item that is none (`decode_frames_exact`). An object of the
grammar that names a known field twice, or has a key that no text has, is no such document; nor is the
number of a frame always the nearest to its decimal, and one whose nearest number is finite may be out
of range (`decode_refuses_keys_and_numbers`).
-/
namespace TermTape

open Json (Ending Spaces Numeral IsValue IsText Item Field Steps Reader listText objectText byte)

namespace Recording

variable {ending : Ending} {rest : Bytes} {layout : Layout} {items : List Item}

/-! ## Items -/

theorem Layout.Holds.values (holds : layout.Holds items) : ∀ item ∈ items, IsValue item.value := by
  obtain ⟨field, inside, same⟩ := List.mem_map.mp (holds.complete "stdout" (by decide))
  have kind := holds.kinds field inside
  obtain ⟨key, member⟩ := field
  cases kind with
  | stdout _ _ _ values => exact values
  | other unknown _ => exact absurd (same ▸ by decide) unknown
  | _ => simp at same

/-- Items that are decoded give the frames. -/
theorem givesFrames_of_decodeFrames (values : ∀ item ∈ items, IsValue item.value)
    {frames : List Frame} (read : decodeFrames 0 (rawItems items) = .ok frames) :
    List.Forall₂ (fun item frame => GivesFrame item.value frame) items frames := by
  rw [decodeFrames_eq_ok, rawItems, List.forall₂_map_left_iff] at read
  refine ((List.forall₂_and_left _ _).mpr ⟨values, read⟩).imp ?_
  rintro item frame ⟨valid, decoded⟩
  exact (decodeFrame_eq_ok valid).mp decoded

private theorem isFrame_of_givesFrames {frames : List Frame}
    (gives : List.Forall₂ (fun item frame => GivesFrame item.value frame) items frames) :
    ∀ item ∈ items, IsFrame item.value := by
  induction gives with
  | nil => exact List.forall_mem_nil _
  | cons first _ ih => exact List.forall_mem_cons.mpr ⟨isFrame_iff.mpr ⟨_, first⟩, ih⟩

/-- Items that are refused have a first one that is no frame, and the fault names it. -/
theorem firstStray_of_decodeFrames (values : ∀ item ∈ items, IsValue item.value)
    {fault : DocumentFault} (refused : decodeFrames 0 (rawItems items) = .error fault) :
    ∃ front item back cause, items = front ++ item :: back ∧
      (∀ earlier ∈ front, IsFrame earlier.value) ∧ ¬ IsFrame item.value ∧
      fault = .inFrame front.length cause := by
  obtain ⟨raws, raw, later, cause, split, earlier, bad, rfl⟩ := decodeFrames_error refused
  obtain ⟨front, others, rfl, rfl, apart⟩ := List.map_eq_append_iff.mp split
  obtain ⟨item, back, rfl, rfl, rfl⟩ := List.map_eq_cons_iff.mp apart
  obtain ⟨before, after⟩ := List.forall_mem_append.mp values
  obtain ⟨valid, -⟩ := List.forall_mem_cons.mp after
  refine ⟨front, item, back, cause, rfl, fun early inside => ?_, ?_, ?_⟩
  · exact (decodes_iff_isFrame (before early inside)).mp (earlier _ (List.mem_map_of_mem inside))
  · rw [← decodes_iff_isFrame valid, bad]
    simp
  · rw [Nat.zero_add, List.length_map]

/-! ## Documents -/

/-- A document that is an object is a recording exactly when every item of `stdout` is a frame. The
recording has the frames that the items give, in their order. Otherwise the fault names the first
item that is none. -/
theorem decode_frames_exact (layout : Layout) (items : List Item) (holds : layout.Holds items) :
    ((∃ recording, decode (Utf8.encode layout.text) = .ok recording) ↔
      ∀ item ∈ items, IsFrame item.value) ∧
    (∀ recording, decode (Utf8.encode layout.text) = .ok recording →
      List.Forall₂ (fun item frame => GivesFrame item.value frame) items recording.frames) ∧
    ((¬ ∀ item ∈ items, IsFrame item.value) →
      ∃ front item back cause, items = front ++ item :: back ∧
        (∀ earlier ∈ front, IsFrame earlier.value) ∧ ¬ IsFrame item.value ∧
        decode (Utf8.encode layout.text) = .error (.inFrame front.length cause) ∧
        DocumentFault.message (.inFrame front.length cause) =
          "frame " ++ wholeText front.length ++ ": " ++ cause.message ∧
        Fault.ofDocument (.inFrame front.length cause) =
          .format (.document (.inFrame front.length cause))) := by
  obtain ⟨made, frames, read⟩ := decode_holds holds
  rw [read]
  cases result : decodeFrames 0 (rawItems items) with
  | ok decoded =>
    have gives := givesFrames_of_decodeFrames holds.values result
    have all := isFrame_of_givesFrames gives
    refine ⟨⟨fun _ => all, fun _ => ⟨made decoded, rfl⟩⟩, ?_, fun stray => absurd all stray⟩
    rintro recording same
    obtain rfl := Except.ok.inj same
    rwa [frames]
  | error fault =>
    obtain ⟨front, item, back, cause, split, earlier, stray, rfl⟩ :=
      firstStray_of_decodeFrames holds.values result
    have some : ¬ ∀ item ∈ items, IsFrame item.value := fun all => stray (all item (by simp [split]))
    refine ⟨⟨nofun, fun all => absurd all some⟩, nofun, fun _ => ?_⟩
    exact ⟨front, item, back, cause, split, earlier, stray, rfl, rfl, rfl⟩

/-- A member without blanks, of which the key has no escapes. -/
def plainField (key : String) (value : List Char) : Field :=
  ⟨key, [], key.toList, [], [], value, []⟩

private theorem formed_plainField {key : String}
    (plain : (key.toList.all fun c => PlainChar c) = true)
    (value : List Char) : (plainField key value).Formed where
  before := List.forall_mem_nil _
  named := Json.spells_plain fun c inside => of_decide_eq_true (List.all_eq_true.mp plain c inside)
  middle := List.forall_mem_nil _
  item := ⟨List.forall_mem_nil _, List.forall_mem_nil _⟩

/-- The members of a document of one frame. -/
def singleFields (item : Item) : List Field :=
  [plainField "version" ['1'], plainField "width" ['1'], plainField "height" ['1'],
    plainField "stdout" (listText [] [item])]

private theorem holds_single {item : Item} (spaced : item.Spaced) (valid : IsValue item.value) :
    Layout.Holds ⟨[], [], singleFields item, []⟩ [item] where
  before := List.forall_mem_nil _
  gap := List.forall_mem_nil _
  after := List.forall_mem_nil _
  formed := by
    simp only [singleFields, List.forall_mem_cons]
    refine ⟨?_, ?_, ?_, ?_, List.forall_mem_nil _⟩
    all_goals exact formed_plainField (by decide) _
  once := by
    simp [singleFields, plainField]
  kinds := by
    have one : ['1'] = Nat.toDigits 10 1 := by decide
    simp only [singleFields, List.forall_mem_cons]
    exact ⟨.version rfl, .width (by decide) one, .height (by decide) one,
      .stdout (List.forall_mem_nil _) rfl (List.forall_mem_singleton.mpr spaced)
        (List.forall_mem_singleton.mpr valid), List.forall_mem_nil _⟩
  complete := by
    simp [singleFields, plainField, requiredKeys]

/-- An item that is a pair of a number and the text `a`. -/
def pairItem (number : List Char) : Item :=
  ⟨[], listText [] [⟨[], number, []⟩, ⟨[' '], Json.quotes ['a'], []⟩], []⟩

private theorem spaced_pairItem (number : List Char) : (pairItem number).Spaced :=
  ⟨List.forall_mem_nil _, List.forall_mem_nil _⟩

/-- The numeral of one. -/
def oneNumeral : Numeral := ⟨false, 1, [], List.forall_mem_nil _, none⟩

/-- A pair with a numeral is a frame when the numeral has the value of a delay. -/
theorem isFrame_pairItem {numeral : Numeral} (finite : numeral.value.isFinite = true)
    (forward : numeral.value.isBelowZero = false) : IsFrame (pairItem numeral.text).value := by
  refine ⟨numeral, ['a'], ⟨_, _, rfl, ?_, ?_, rfl, rfl⟩, .plain (by decide) .nil, finite, forward⟩
  · exact ⟨List.forall_mem_nil _, List.forall_mem_nil _⟩
  · exact ⟨by decide, List.forall_mem_nil _⟩

private theorem isFrame_one : IsFrame (pairItem oneNumeral.text).value :=
  isFrame_pairItem (by decide +kernel) (by decide +kernel)

private theorem holds_one : Layout.Holds ⟨[], [], singleFields (pairItem oneNumeral.text), []⟩
    [pairItem oneNumeral.text] :=
  holds_single (spaced_pairItem _) (isValue_of_isFrame isFrame_one)

theorem decode_frames_exact_single :
    ∃ recording, decode (Utf8.encode
        "\x7b\"version\":1,\"width\":1,\"height\":1,\"stdout\":[[1, \"a\"]]\x7d".toList) =
          .ok recording ∧
      List.Forall₂ (fun item frame => GivesFrame item.value frame) [pairItem ['1']]
        recording.frames := by
  obtain ⟨exactly, frames, -⟩ := decode_frames_exact _ _ holds_one
  obtain ⟨recording, read⟩ := exactly.mpr (List.forall_mem_singleton.mpr isFrame_one)
  exact ⟨recording, read, frames recording read⟩

/-! ## Documents that are refused for a key or a number -/

/-- The fault of the members is that of the document. -/
theorem decode_of_members {rest : Bytes} {fault : Json.Fault}
    (refused : Json.readMembers .ends (documentMember .ends) true {} rest = .error fault) :
    decode (byte '\x7b' :: rest) = .error (.json fault) := by
  have next : Json.skipGap (byte '\x7b' :: rest) = byte '\x7b' :: rest := Json.skipGap_cons rfl rest
  have object : documentObject .ends rest = .error fault := by
    simp only [documentObject, refused, bind, Except.bind]
  have bracketed : Json.readBracketed .ends "struct RawDocument" (documentList .ends)
      (some (documentObject .ends)) (byte '\x7b' :: rest) = .error fault := by
    unfold Json.readBracketed
    split
    · simp_all
    · rename_i h
      rw [next] at h
      cases h
      simp [object, byte, bind, Except.bind]
  simp only [decode, decodeFrom, readHeader, bracketed, bind, Except.bind, Except.mapError]

private theorem documentMember_repeated {fields : Fields} {key : String}
    (there : fields.Present key)
    (input : Bytes) : documentMember ending fields key input = .error (.repeated key) := by
  unfold Fields.Present at there
  split at there
  case h_9 => exact there.elim
  all_goals simp [documentMember, fieldValue, there]

/-- A document in which a known key stands again is refused, and the fault names the key. -/
theorem decode_repeated {front back : List Field} {fields : Fields}
    (steps : Steps (documentMember .ends) {} front fields) {field : Field} (formed : field.Formed)
    (there : fields.Present field.key) (gap : List Char) :
    decode (Utf8.encode (objectText gap ((front ++ field :: back).map Field.member))) =
      .error (.json (.repeated field.key)) := by
  rw [objectText, Json.encode_bracketed, List.map_map]
  exact decode_of_members (Json.readMembers_fields_refused steps formed
    (fun left => documentMember_repeated there _) gap [])

/-- The fault of the first key is that of the members. -/
theorem readMembers_of_key {member : σ → String → Reader σ} {state : σ} {input : Bytes}
    {fault : Json.Fault} (next : Json.skipGap input = byte '"' :: rest)
    (refused : Json.readStringBytes ending [] rest = .error fault) :
    Json.readMembers ending member true state input = .error fault := by
  have text : Json.readText ending rest = .error fault := by
    unfold Json.readText
    split <;> simp_all
  have key : Json.nextKey ending true input = .error fault := by
    unfold Json.nextKey
    split
    · simp_all
    · rename_i h
      rw [next] at h
      cases h
      simp [text, byte, bind, Except.bind]
  rw [Json.readMembers, key]
  rfl

/-- The members of a document of a frame that is delayed by one second. -/
def oneFields : List Field := singleFields (pairItem oneNumeral.text)

/-- A key that no text has: a low surrogate alone. -/
def strayKey : Json.Member := ⟨[], ['\\', 'u', 'd', 'c', '8', '0'], [], [], ['0'], []⟩

private theorem decode_strayKey :
    decode (Utf8.encode (objectText [] (strayKey :: oneFields.map Field.member))) =
      .error (.json (.malformed .loneSurrogate)) := by
  obtain ⟨rest, text⟩ : ∃ rest,
      Utf8.encode (objectText [] (strayKey :: oneFields.map Field.member)) =
        byte '\x7b' :: byte '"' :: byte '\\' :: byte 'u' :: byte 'd' :: byte 'c' :: byte '8' ::
          byte '0' :: rest := ⟨_, rfl⟩
  rw [text]
  refine decode_of_members (readMembers_of_key (Json.skipGap_cons rfl _) ?_)
  rw [Json.readStringBytes_cons]
  rfl

private theorem isValue_strayKey :
    IsValue (objectText [] (strayKey :: oneFields.map Field.member)) := by
  have stray : strayKey.Formed :=
    ⟨List.forall_mem_nil _, .unit (by decide) .nil, List.forall_mem_nil _, ⟨by decide, by decide⟩⟩
  have zero : IsValue strayKey.value := .number ⟨false, 0, [], List.forall_mem_nil _, none⟩
  refine .object (List.forall_mem_nil _) ?_ ?_
  · exact List.forall_mem_cons.mpr
      ⟨stray, List.forall_mem_map.mpr fun field inside => (holds_one.formed field inside).isFormed⟩
  · exact List.forall_mem_cons.mpr
      ⟨zero, List.forall_mem_map.mpr fun field inside => (holds_one.kinds field inside).isValue⟩

/-- An empty title. -/
def emptyTitle : Field := plainField "title" (Json.quotes [])

private theorem formed_emptyTitle : emptyTitle.Formed := formed_plainField (by decide) _

private theorem isText_emptyTitle : IsText emptyTitle.member.value "" := ⟨[], rfl, .nil⟩

private theorem decode_twoTitles :
    decode (Utf8.encode (objectText [] ((emptyTitle :: emptyTitle :: oneFields).map Field.member))) =
      .error (.json (.repeated "title")) := by
  have kind : OfDocument [] "title" emptyTitle.member.value := .title isText_emptyTitle
  obtain ⟨fields, made, -⟩ := documentMember_makes .ends formed_emptyTitle kind {}
    ⟨by simp, by simp⟩ (Fields.not_present_empty _)
  have there := (documentMember_present (made (byte ',') [] (by constructor <;> decide)) "title").mpr
    (.inr ⟨rfl, by decide⟩)
  exact decode_repeated (.cons formed_emptyTitle made (.nil fields)) formed_emptyTitle there []

/-- A numeral that is out of range, though the number nearest to it is finite. -/
def farNumeral : Numeral :=
  ⟨false, 1, "7976931348623158".toList, List.all_eq_true.mp (by decide),
    some ⟨false, none, ['3', '0', '8'], nofun, List.all_eq_true.mp (by decide)⟩⟩

/-- The members of a document of a frame that is delayed by this numeral. -/
def farFields : List Field := singleFields (pairItem farNumeral.text)

private theorem holds_far : Layout.Holds ⟨[], [], farFields, []⟩ [pairItem farNumeral.text] := by
  have string : Json.Letters ['a'] := .plain (by decide) .nil
  refine holds_single (spaced_pairItem _) (.list (List.forall_mem_nil _) ?_ ?_)
  · exact List.forall_mem_cons.mpr ⟨⟨List.forall_mem_nil _, List.forall_mem_nil _⟩,
      List.forall_mem_singleton.mpr ⟨by decide, List.forall_mem_nil _⟩⟩
  · exact List.forall_mem_cons.mpr
      ⟨.number farNumeral, List.forall_mem_singleton.mpr (.string string)⟩

/-- The digits `17976931348623158` are multiplied by `10^292`, which is past the greatest number. -/
theorem decode_far (recording : Recording) :
    decode (Utf8.encode (objectText [] (farFields.map Field.member))) ≠ .ok recording := by
  obtain ⟨made, -, read⟩ := decode_holds holds_far
  have refused : (decodeFrames 0 (rawItems [pairItem farNumeral.text])).toOption = none := by
    decide +kernel
  intro same
  change decode (Utf8.encode (Layout.text ⟨[], [], farFields, []⟩)) = .ok recording at same
  rw [read] at same
  obtain ⟨frames, decoded, -⟩ := ok_of_map same
  rw [decoded] at refused
  cases refused

/-- An object of the grammar may have a key that no text has, or a known key twice. Then it is
refused and no frame is named, though its members have values of their kinds and its only item is a
frame. A frame may also be refused for a delay of which the nearest number is finite and above zero. -/
theorem decode_refuses_keys_and_numbers :
    IsValue (objectText [] (strayKey :: oneFields.map Field.member)) ∧
      decode (Utf8.encode (objectText [] (strayKey :: oneFields.map Field.member))) =
        .error (.json (.malformed .loneSurrogate)) ∧
      IsValue (objectText [] ((emptyTitle :: emptyTitle :: oneFields).map Field.member)) ∧
      decode (Utf8.encode (objectText [] ((emptyTitle :: emptyTitle :: oneFields).map Field.member))) =
        .error (.json (.repeated "title")) ∧
      (∀ field ∈ emptyTitle :: oneFields,
        OfDocument [pairItem ['1']] field.key field.member.value) ∧
      (∀ key ∈ requiredKeys, key ∈ oneFields.map Field.key) ∧ IsFrame (pairItem ['1']).value ∧
      Layout.Holds ⟨[], [], farFields, []⟩ [pairItem "1.7976931348623158e308".toList] ∧
      farNumeral.text = "1.7976931348623158e308".toList ∧
      farNumeral.parts.nearest.isFinite = true ∧ farNumeral.parts.nearest.isBelowZero = false ∧
      ∀ recording,
        decode (Utf8.encode (objectText [] (farFields.map Field.member))) ≠ .ok recording := by
  have kinds : ∀ field ∈ emptyTitle :: oneFields,
      OfDocument [pairItem ['1']] field.key field.member.value :=
    List.forall_mem_cons.mpr ⟨.title isText_emptyTitle, holds_one.kinds⟩
  have titles : IsValue (objectText [] ((emptyTitle :: emptyTitle :: oneFields).map Field.member)) := by
    refine Json.isValue_object (List.forall_mem_nil _) ?_ ?_
    · exact List.forall_mem_cons.mpr ⟨formed_emptyTitle,
        List.forall_mem_cons.mpr ⟨formed_emptyTitle, holds_one.formed⟩⟩
    · exact List.forall_mem_cons.mpr ⟨isText_emptyTitle.isValue,
        fun field inside => (kinds field inside).isValue⟩
  have far : farNumeral.text = "1.7976931348623158e308".toList := by decide
  exact ⟨isValue_strayKey, decode_strayKey, titles, decode_twoTitles, kinds, holds_one.complete,
    isFrame_one, far ▸ holds_far, far, by decide +kernel, by decide +kernel, decode_far⟩

end Recording
end TermTape

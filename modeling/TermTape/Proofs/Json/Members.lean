import TermTape.Proofs.Json.Passing

/-!
# Members and items of the grammar

A reader reads a text as a value when it does so wherever the text stands (`ReadsAs`). A list is
read as the values of its items (`readsAs_list`), and an object member by member, each given to the
state that the members before it made (`Steps`, `readsAs_object`), whatever blanks stand between.
-/
namespace TermTape.Json

variable {α σ : Type} {ending : Ending}

/-! ## Strings and their texts -/

/-- The letters of a string spell a text: each escape is resolved, and surrogates stand in pairs. -/
inductive Spells : List Char → List Char → Prop where
  | nil : Spells [] []
  | plain {c : Char} {letters text : List Char} (plain : PlainChar c) (more : Spells letters text) :
      Spells (c :: letters) (c :: text)
  | short {letter c : Char} {letters text : List Char}
      (listed : (letter, c) ∈ [('"', '"'), ('\\', '\\'), ('/', '/'), ('b', '\x08'), ('f', '\x0c'),
        ('n', '\n'), ('r', '\r'), ('t', '\t')])
      (more : Spells letters text) : Spells ('\\' :: letter :: letters) (c :: text)
  | unit {a b c d : Char} {unit : Nat} {letters text : List Char}
      (digits : unitOf? a b c d = some unit)
      (alone : isHighUnit unit = false ∧ isLowUnit unit = false) (more : Spells letters text) :
      Spells ('\\' :: 'u' :: a :: b :: c :: d :: letters) (Char.ofNat unit :: text)
  | pair {a b c d a₂ b₂ c₂ d₂ : Char} {unit low : Nat} {letters text : List Char}
      (digits : unitOf? a b c d = some unit) (digits₂ : unitOf? a₂ b₂ c₂ d₂ = some low)
      (pair : isHighUnit unit = true ∧ isLowUnit low = true) (more : Spells letters text) :
      Spells ('\\' :: 'u' :: a :: b :: c :: d :: '\\' :: 'u' :: a₂ :: b₂ :: c₂ :: d₂ :: letters)
        (pairChar unit low :: text)

/-- What spells a text may stand between the quotes of a string. -/
theorem Spells.letters {letters text : List Char} (spells : Spells letters text) : Letters letters := by
  induction spells with
  | nil => exact .nil
  | plain plain _ ih => exact .plain plain ih
  | @short letter c letters text listed _ ih =>
    have among := List.mem_map_of_mem (f := Prod.fst) listed
    exact .short among ih
  | unit digits _ _ ih => exact .unit (by rw [digits]; rfl) ih
  | pair digits digits₂ _ _ ih => exact .unit (by rw [digits]; rfl) (.unit (by rw [digits₂]; rfl) ih)

/-- The letters of a string are read as the text that they spell. -/
theorem readStringBytes_spells {letters text : List Char} (spells : Spells letters text)
    (before rest : Bytes) :
    readStringBytes ending before (Utf8.encode letters ++ byte '"' :: rest) =
      .ok (before.reverse ++ Utf8.encode text, rest) := by
  induction spells generalizing before with
  | nil => simp [Utf8.encode, readStringBytes_quote]
  | @plain c letters text plain _ ih =>
    rw [Utf8.encode_cons, List.append_assoc,
      readStringBytes_plain ending before (plainByte_of_plainChar plain), ih, Utf8.encode_cons]
    simp
  | @short letter c letters text listed _ ih =>
    have escape : letter.toNat < 128 ∧ c.toNat < 128 ∧
        shortEscape? (byte letter) = some (byte c) := by
      simp only [List.mem_cons, Prod.mk.injEq, List.not_mem_nil, or_false] at listed
      rcases listed with ⟨rfl, rfl⟩ | ⟨rfl, rfl⟩ | ⟨rfl, rfl⟩ | ⟨rfl, rfl⟩ | ⟨rfl, rfl⟩ |
        ⟨rfl, rfl⟩ | ⟨rfl, rfl⟩ | ⟨rfl, rfl⟩ <;> decide
    obtain ⟨ascii, low, found⟩ := escape
    rw [Utf8.encode_ascii_cons (by decide), Utf8.encode_ascii_cons ascii, List.cons_append,
      List.cons_append, readStringBytes_escape (readEscape_short _ found), ih,
      Utf8.encode_ascii_cons low]
    simp
  | unit digits alone _ ih =>
    obtain ⟨bytes, digits⟩ := unitOf?_eq_some digits
    rw [bytes]
    simp only [List.cons_append]
    rw [readStringBytes_escape (readEscape_unit _ digits alone.2 alone.1), ih, Utf8.encode_cons]
    simp
  | pair digits digits₂ pair _ ih =>
    obtain ⟨bytes, digits⟩ := unitOf?_eq_some digits
    obtain ⟨bytes₂, digits₂⟩ := unitOf?_eq_some digits₂
    rw [bytes, bytes₂]
    simp only [List.cons_append]
    rw [readStringBytes_escape (readEscape_pair _ digits digits₂ pair.1 pair.2), ih,
      Utf8.encode_cons]
    simp

/-- Characters that stand for themselves spell themselves. -/
theorem spells_plain {text : List Char} (plain : ∀ c ∈ text, PlainChar c) : Spells text text := by
  induction text with
  | nil => exact .nil
  | cons c text ih =>
    obtain ⟨first, more⟩ := List.forall_mem_cons.mp plain
    exact .plain first (ih more)

private theorem readText_spells {letters : List Char} {text : String}
    (spells : Spells letters text.toList) (rest : Bytes) :
    Gives (readText ending (Utf8.encode letters ++ byte '"' :: rest)) text rest :=
  readText_gives (readStringBytes_spells spells [] rest)

/-! ## Values in any place -/

/-- The reader reads the text as the value wherever it stands, up to a byte that goes on with no
number. -/
def ReadsAs (reader : Reader α) (text : List Char) (x : α) : Prop :=
  ∀ gap d rest, Blank gap → Delimits d →
    Gives (reader (gap ++ (Utf8.encode text ++ d :: rest))) x (d :: rest)

/-- A string whose letters spell the text. -/
def IsText (value : List Char) (text : String) : Prop :=
  ∃ letters, value = quotes letters ∧ Spells letters text.toList

theorem IsText.isValue {value : List Char} {text : String} (string : IsText value text) :
    IsValue value := by
  obtain ⟨letters, rfl, spells⟩ := string
  exact .string spells.letters

theorem readsAs_text (ending : Ending) {value : List Char} {text : String} (string : IsText value text) :
    ReadsAs (readString ending) value text := by
  obtain ⟨letters, rfl, spells⟩ := string
  intro gap d rest blank _
  rw [encode_quotes, quoted_append]
  exact readString_gives (skipGap_solid blank rfl _) (readText_spells spells _)

private theorem readsAs_raw (ending : Ending) {value : List Char} (valid : IsValue value) :
    ReadsAs (readRaw ending) value (Utf8.encode value) := by
  intro gap d rest blank delimits
  exact readRaw_value blank valid delimits rest

/-! ## Brackets -/

theorem encode_around (bracket : Bracket) (gap : List Char) (parts : List (List Char))
    (rest : Bytes) :
    Utf8.encode (bracket.around gap parts) ++ rest =
      byte bracket.opener :: (Utf8.encode (interior gap parts) ++ byte bracket.closer :: rest) := by
  have ascii : bracket.opener.toNat < 128 ∧ bracket.closer.toNat < 128 := by
    cases bracket <;> decide
  have closer : Utf8.encode [bracket.closer] = [byte bracket.closer] :=
    Utf8.encode_ascii_cons ascii.2 []
  rw [Bracket.around, Utf8.encode_ascii_cons ascii.1, Utf8.encode_append, closer]
  simp

theorem encode_bracketed (bracket : Bracket) (gap : List Char) (parts : List (List Char)) :
    Utf8.encode (bracket.around gap parts) =
      byte bracket.opener :: (Utf8.encode (interior gap parts) ++ [byte bracket.closer]) := by
  rw [← encode_around, List.append_nil]

/-- The bytes of parts that follow others, each after its comma. -/
def laterParts (parts : List (List Char)) : Bytes := Utf8.encode (parts.flatMap (',' :: ·))

theorem laterParts_cons (part : List Char) (parts : List (List Char)) (rest : Bytes) :
    laterParts (part :: parts) ++ rest = byte ',' :: (Utf8.encode part ++ (laterParts parts ++ rest)) := by
  rw [laterParts, List.flatMap_cons, List.cons_append, Utf8.encode_ascii_cons (by decide),
    Utf8.encode_append, List.cons_append, List.append_assoc]
  rfl

theorem encode_interior_cons (gap part : List Char) (parts : List (List Char)) (rest : Bytes) :
    Utf8.encode (interior gap (part :: parts)) ++ rest =
      Utf8.encode part ++ (laterParts parts ++ rest) := by
  rw [interior, Utf8.encode_append, List.append_assoc]
  rfl

/-- What follows a part between brackets goes on with no number. -/
theorem delimits_after (bracket : Bracket) {gap : List Char} (blank : Spaces gap)
    (parts : List (List Char)) (rest : Bytes) :
    ∃ d more, Utf8.encode gap ++ (laterParts parts ++ byte bracket.closer :: rest) = d :: more ∧
      Delimits d := by
  have spaces := blank.blank
  cases text : Utf8.encode gap with
  | cons d more =>
    rw [text] at spaces
    exact ⟨d, _, rfl, .of_gap (spaces d List.mem_cons_self)⟩
  | nil =>
    cases parts with
    | nil =>
      refine ⟨byte bracket.closer, rest, rfl, ?_⟩
      cases bracket <;> constructor <;> decide
    | cons part parts =>
      rw [laterParts_cons]
      exact ⟨byte ',', _, rfl, by constructor <;> decide⟩

/-! ## Lists -/

private theorem encode_item (item : Item) (rest : Bytes) :
    Utf8.encode item.text ++ rest =
      Utf8.encode item.before ++ (Utf8.encode item.value ++ (Utf8.encode item.after ++ rest)) := by
  simp [Item.text, Utf8.encode_append]

/-- The item may stand in a list. -/
structure Item.Stands (item : Item) : Prop where
  spaced : item.Spaced
  opens : ∃ b more, Utf8.encode item.value = b :: more ∧ isGap b = false ∧ b ≠ byte ']'

theorem Item.Stands.first {item : Item} (stands : item.Stands) (ending : Ending) (rest : Bytes) :
    ∃ h, nextItem ending true (Utf8.encode item.text ++ rest) =
      .ok (some ⟨Utf8.encode item.value ++ (Utf8.encode item.after ++ rest), h⟩) := by
  obtain ⟨b, more, text, solid, other⟩ := stands.opens
  rw [encode_item, text]
  exact nextItem_first (skipGap_solid stands.spaced.before.blank solid _) other

theorem Item.Stands.later {item : Item} (stands : item.Stands) (ending : Ending) {gap : Bytes}
    (blank : Blank gap) (rest : Bytes) :
    ∃ h, nextItem ending false (gap ++ byte ',' :: (Utf8.encode item.text ++ rest)) =
      .ok (some ⟨Utf8.encode item.value ++ (Utf8.encode item.after ++ rest), h⟩) := by
  obtain ⟨b, more, text, solid, other⟩ := stands.opens
  rw [encode_item, text]
  exact nextItem_later (skipGap_solid blank rfl _)
    (skipGap_solid stands.spaced.before.blank solid _) other

theorem Item.stands_of_isValue {item : Item} (spaced : item.Spaced) (valid : IsValue item.value) :
    item.Stands :=
  ⟨spaced, (passed_value valid).opens⟩

/-- An item that is read as a value. -/
structure ReadsItem (reader : Reader α) (item : Item) (x : α) : Prop where
  stands : item.Stands
  reads : ReadsAs reader item.value x

/-- The bytes after an item in its list. -/
def afterItem (item : Item) (items : List Item) (rest : Bytes) : Bytes :=
  Utf8.encode item.after ++ (laterParts (items.map Item.text) ++ byte ']' :: rest)

section Items

variable {reader : Reader α} {item : Item} {items : List Item} {x : α} {values : List α}

theorem ReadsItem.given (reads : ReadsItem reader item x) (items : List Item) (rest : Bytes) :
    Gives (reader (Utf8.encode item.value ++ afterItem item items rest)) x
      (afterItem item items rest) := by
  obtain ⟨d, after, follows, delimits⟩ :=
    delimits_after .list reads.stands.spaced.after (items.map Item.text) rest
  change afterItem item items rest = d :: after at follows
  rw [follows]
  exact reads.reads [] d after (List.forall_mem_nil _) delimits

theorem ReadsItem.nextField_first (ending : Ending) (reads : ReadsItem reader item x)
    (gap : List Char) (items : List Item) (rest : Bytes) :
    Gives (nextField ending true reader
        (Utf8.encode (interior gap ((item :: items).map Item.text)) ++ byte ']' :: rest)) (some x)
      (afterItem item items rest) := by
  rw [List.map_cons, encode_interior_cons]
  exact nextField_gives (reads.stands.first _ _) (reads.given items rest)

theorem ReadsItem.nextField_later (ending : Ending) (reads : ReadsItem reader item x)
    {gap : Bytes} (blank : Blank gap) (items : List Item) (rest : Bytes) :
    Gives (nextField ending false reader
        (gap ++ (laterParts ((item :: items).map Item.text) ++ byte ']' :: rest))) (some x)
      (afterItem item items rest) := by
  rw [List.map_cons, laterParts_cons]
  exact nextField_gives (reads.stands.later _ blank _) (reads.given items rest)

/-- Items that follow others are read up to the closing bracket. -/
theorem readItems_later (reads : List.Forall₂ (ReadsItem reader) items values) (before : List α)
    {gap : Bytes} (blank : Blank gap) (rest : Bytes) :
    ∃ left, skipGap left = byte ']' :: rest ∧
      Gives (readItems ending reader false before
        (gap ++ (laterParts (items.map Item.text) ++ byte ']' :: rest))) (before.reverse ++ values)
        left := by
  induction reads generalizing before gap with
  | nil =>
    have next := skipGap_solid (b := byte ']') blank rfl rest
    refine ⟨_, next, ?_⟩
    rw [List.append_nil]
    exact readItems_end next
  | @cons item x items values first _ ih =>
    obtain ⟨left, close, later⟩ := ih (x :: before) first.stands.spaced.after.blank
    refine ⟨left, close, ?_⟩
    rw [List.reverse_cons, List.append_assoc] at later
    rw [List.map_cons, laterParts_cons]
    exact readItems_next (first.stands.later _ blank _) (first.given items rest) later

/-- A list is read as the values of its items. -/
theorem readsAs_list (ending : Ending) (reads : List.Forall₂ (ReadsItem reader) items values)
    {inner : List Char} (empty : Spaces inner) :
    ReadsAs (readListOf ending reader) (listText inner items) values := by
  intro gap d rest blank _
  rw [listText, encode_around]
  obtain ⟨left, close, given⟩ : ∃ left, skipGap left = byte ']' :: d :: rest ∧
      Gives (readItems ending reader true []
        (Utf8.encode (interior inner (items.map Item.text)) ++ byte ']' :: d :: rest)) values
        left := by
    cases reads with
    | nil =>
      have next := skipGap_solid (b := byte ']') empty.blank rfl (d :: rest)
      exact ⟨_, next, readItems_end next⟩
    | @cons item x items values first more =>
      obtain ⟨left, close, later⟩ := readItems_later more [x] first.stands.spaced.after.blank (d :: rest)
      rw [List.map_cons, encode_interior_cons]
      exact ⟨left, close, readItems_next (first.stands.first _ _) (first.given items _) later⟩
  exact readBracketed_list (skipGap_solid blank rfl _) given (closeList_leaves close)

end Items

theorem ReadsItem.raw (ending : Ending) {item : Item} (spaced : item.Spaced) (valid : IsValue item.value) :
    ReadsItem (readRaw ending) item (Utf8.encode item.value) :=
  ⟨item.stands_of_isValue spaced valid, readsAs_raw ending valid⟩

theorem ReadsItem.text (ending : Ending) {item : Item} {text : String} (spaced : item.Spaced)
    (string : IsText item.value text) : ReadsItem (readString ending) item text := by
  refine ⟨⟨spaced, ?_⟩, readsAs_text ending string⟩
  obtain ⟨letters, value, -⟩ := string
  rw [value, encode_quotes]
  exact ⟨byte '"', _, rfl, rfl, by decide⟩

/-- The first byte of a value says whether it is a number, a string or a list. -/
structure Begins (value : List Char) (b : UInt8) : Prop where
  solid : isGap b = false
  number : Leads b → ∃ numeral : Numeral, value = numeral.text
  string : b = byte '"' → ∃ letters, Letters letters ∧ value = quotes letters
  list : b = byte '[' → ∃ gap items, Spaces gap ∧
    (∀ item ∈ items, item.Stands ∧ IsValue item.value) ∧ value = listText gap items

private theorem begins_other {value : List Char} {b : UInt8}
    (other : isGap b = false ∧ ¬ Leads b ∧ b ≠ byte '"' ∧ b ≠ byte '[') : Begins value b where
  solid := other.1
  number leads := absurd leads other.2.1
  string same := absurd same other.2.2.1
  list same := absurd same other.2.2.2

theorem IsValue.begins {value : List Char} (valid : IsValue value) :
    ∃ b more, Utf8.encode value = b :: more ∧ Begins value b := by
  cases valid with
  | null => exact ⟨byte 'n', _, rfl, begins_other (by decide)⟩
  | truth => exact ⟨byte 't', _, rfl, begins_other (by decide)⟩
  | falsity => exact ⟨byte 'f', _, rfl, begins_other (by decide)⟩
  | number numeral =>
    obtain ⟨b, more, text, leads⟩ := numeral.leads
    refine ⟨b, more, text, leads.solid, fun _ => ⟨numeral, rfl⟩, ?_, ?_⟩
    · exact fun same => absurd same (leads.ne (by decide))
    · exact fun same => absurd same (leads.ne (by decide))
  | string body =>
    refine ⟨byte '"', _, encode_quotes _, rfl, ?_, fun _ => ⟨_, body, rfl⟩, ?_⟩
    · exact fun leads => absurd leads (by decide)
    · exact fun same => absurd same (by decide)
  | list blank spaced values =>
    refine ⟨byte '[', _, encode_bracketed .list _ _, rfl, ?_, ?_, fun _ => ⟨_, _, blank, ?_, rfl⟩⟩
    · exact fun leads => absurd leads (by decide)
    · exact fun same => absurd same (by decide)
    · intro item inside
      exact ⟨item.stands_of_isValue (spaced item inside) (values item inside), values item inside⟩
  | object => exact ⟨byte '\x7b', _, encode_bracketed .object _ _, begins_other (by decide)⟩

/-! ## Objects -/

/-- A member of an object with the text of its key. -/
structure Field where
  key : String
  member : Member

/-- Blanks stand around the parts of a member, and its key spells its text. -/
structure Field.Formed (field : Field) : Prop where
  before : Spaces field.member.before
  named : Spells field.member.letters field.key.toList
  middle : Spaces field.member.middle
  item : field.member.item.Spaced

theorem Field.Formed.isFormed {field : Field} (formed : field.Formed) : field.member.Formed :=
  ⟨formed.before, formed.named.letters, formed.middle, formed.item⟩

theorem isValue_object {gap : List Char} {fields : List Field} (empty : Spaces gap)
    (formed : ∀ field ∈ fields, field.Formed) (values : ∀ field ∈ fields, IsValue field.member.value) :
    IsValue (objectText gap (fields.map Field.member)) :=
  .object empty (List.forall_mem_map.mpr fun field inside => (formed field inside).isFormed)
    (List.forall_mem_map.mpr values)

/-- The bytes of a member after its key. -/
def Field.rest (field : Field) (left : Bytes) : Bytes :=
  Utf8.encode field.member.middle ++
    byte ':' :: (Utf8.encode field.member.later ++ (Utf8.encode field.member.value ++ left))

private theorem encode_member (field : Field) (rest : Bytes) :
    Utf8.encode field.member.text ++ rest =
      Utf8.encode field.member.before ++ byte '"' :: (Utf8.encode field.member.letters ++
        byte '"' :: field.rest (Utf8.encode field.member.after ++ rest)) := by
  have colon : (':' : Char).toNat < 128 := by decide
  simp [Member.text, Member.rest, Member.item, Item.text, Field.rest, Utf8.encode_append,
    Utf8.encode_ascii_cons colon, encode_quotes, quoted]

/-- The member is given to a state, and makes another one of it. -/
def Field.Makes (member : σ → String → Reader σ) (before : σ) (field : Field) (state : σ) : Prop :=
  ∀ d rest, Delimits d → Gives (member before field.key (field.rest (d :: rest))) state (d :: rest)

theorem Field.Formed.colon {field : Field} (formed : field.Formed) (left : Bytes) :
    Leaves (readColon ending (field.rest left))
      (Utf8.encode field.member.later ++ (Utf8.encode field.member.value ++ left)) :=
  readColon_leaves (skipGap_solid formed.middle.blank rfl _)

/-- The value of a member is read after its key. -/
theorem Field.Formed.value {field : Field} (formed : field.Formed) {reader : Reader α} {x : α}
    (reads : ReadsAs reader field.member.value x) {d : UInt8} (delimits : Delimits d)
    (rest : Bytes) :
    Gives (memberValue ending reader (field.rest (d :: rest))) x (d :: rest) :=
  memberValue_gives (formed.colon _) (reads _ d rest formed.item.before.blank delimits)

/-- Members are given to a state one after another. -/
inductive Steps (member : σ → String → Reader σ) : σ → List Field → σ → Prop where
  | nil (state : σ) : Steps member state [] state
  | cons {before state after : σ} {field : Field} {fields : List Field} (formed : field.Formed)
      (first : field.Makes member before state) (more : Steps member state fields after) :
      Steps member before (field :: fields) after

theorem Field.Makes.given {member : σ → String → Reader σ} {before state : σ} {field : Field}
    (makes : field.Makes member before state) (formed : field.Formed) (parts : List (List Char))
    (rest : Bytes) :
    Gives (member before field.key (field.rest
        (Utf8.encode field.member.after ++ (laterParts parts ++ byte '\x7d' :: rest)))) state
      (Utf8.encode field.member.after ++ (laterParts parts ++ byte '\x7d' :: rest)) := by
  obtain ⟨d, after, follows, delimits⟩ := delimits_after .object formed.item.after parts rest
  change Utf8.encode field.member.after ++ (_ ++ byte '\x7d' :: rest) = d :: after at follows
  rw [follows]
  exact makes d after delimits

/-- Members that follow others are read up to the closing bracket. -/
theorem readMembers_later {member : σ → String → Reader σ} {before after : σ} {fields : List Field}
    (steps : Steps member before fields after) {gap : Bytes} (blank : Blank gap) (rest : Bytes) :
    ∃ left, skipGap left = byte '\x7d' :: rest ∧
      Gives (readMembers ending member false before
        (gap ++ (laterParts (fields.map (·.member.text)) ++ byte '\x7d' :: rest))) after left := by
  induction steps generalizing gap with
  | nil =>
    have next := skipGap_solid (b := byte '\x7d') blank rfl rest
    exact ⟨_, next, readMembers_end next⟩
  | @cons before state after field fields formed first _ ih =>
    obtain ⟨left, close, later⟩ := ih formed.item.after.blank
    refine ⟨left, close, ?_⟩
    rw [List.map_cons, laterParts_cons, encode_member]
    exact readMembers_next (nextKey_later (skipGap_solid blank rfl _)
      (skipGap_solid formed.before.blank rfl _) (readText_spells formed.named _))
      (first.given formed _ rest) later

/-- The members of an object are read up to its closing bracket. -/
theorem readMembers_fields {member : σ → String → Reader σ} {before after : σ} {fields : List Field}
    (steps : Steps member before fields after) {gap : List Char} (empty : Spaces gap)
    (rest : Bytes) :
    ∃ left, skipGap left = byte '\x7d' :: rest ∧
      Gives (readMembers ending member true before
        (Utf8.encode (interior gap (fields.map (·.member.text))) ++ byte '\x7d' :: rest)) after
        left := by
  cases steps with
  | nil =>
    have next := skipGap_solid (b := byte '\x7d') empty.blank rfl rest
    exact ⟨_, next, readMembers_end next⟩
  | @cons _ state _ field fields formed first more =>
    obtain ⟨left, close, later⟩ := readMembers_later more formed.item.after.blank rest
    rw [List.map_cons, encode_interior_cons, encode_member]
    exact ⟨left, close, readMembers_next (nextKey_first
      (skipGap_solid formed.before.blank rfl _) (readText_spells formed.named _))
      (first.given formed _ rest) later⟩

private theorem readMembers_refused {member : σ → String → Reader σ} {first : Bool} {before : σ}
    {key : String} {input start : Bytes} {fault : Fault}
    (next : NextKey ending first input key start) (refused : member before key start = .error fault) :
    readMembers ending member first before input = .error fault := by
  obtain ⟨h, next⟩ := next
  rw [readMembers, next]
  simp [refused, bind, Except.bind]

private theorem readMembers_next_refused {member : σ → String → Reader σ} {first : Bool}
    {before state : σ} {key : String} {input start left : Bytes} {fault : Fault}
    (next : NextKey ending first input key start) (given : Gives (member before key start) state left)
    (refused : readMembers ending member false state left = .error fault) :
    readMembers ending member first before input = .error fault := by
  obtain ⟨h, next⟩ := next
  obtain ⟨h₂, given⟩ := given
  rw [readMembers, next]
  simp [given, refused, bind, Except.bind]

/-- A member that is refused after others is the fault of the object. -/
theorem readMembers_later_refused {member : σ → String → Reader σ} {before after : σ}
    {front back : List Field} (steps : Steps member before front after) {field : Field}
    (formed : field.Formed) {fault : Fault}
    (refused : ∀ left, member after field.key (field.rest left) = .error fault) {gap : Bytes}
    (blank : Blank gap) (rest : Bytes) :
    readMembers ending member false before
      (gap ++ (laterParts ((front ++ field :: back).map (·.member.text)) ++ byte '\x7d' :: rest)) =
        .error fault := by
  induction steps generalizing gap with
  | nil =>
    rw [List.nil_append, List.map_cons, laterParts_cons, encode_member]
    exact readMembers_refused (nextKey_later (skipGap_solid blank rfl _)
      (skipGap_solid formed.before.blank rfl _) (readText_spells formed.named _)) (refused _)
  | cons formed₂ first _ ih =>
    rw [List.cons_append, List.map_cons, laterParts_cons, encode_member]
    exact readMembers_next_refused (nextKey_later (skipGap_solid blank rfl _)
      (skipGap_solid formed₂.before.blank rfl _) (readText_spells formed₂.named _))
      (first.given formed₂ _ rest) (ih refused formed₂.item.after.blank)

theorem readMembers_fields_refused {member : σ → String → Reader σ} {before after : σ}
    {front back : List Field} (steps : Steps member before front after) {field : Field}
    (formed : field.Formed) {fault : Fault}
    (refused : ∀ left, member after field.key (field.rest left) = .error fault) (gap : List Char)
    (rest : Bytes) :
    readMembers ending member true before
      (Utf8.encode (interior gap ((front ++ field :: back).map (·.member.text))) ++
        byte '\x7d' :: rest) = .error fault := by
  cases steps with
  | nil =>
    rw [List.nil_append, List.map_cons, encode_interior_cons, encode_member]
    exact readMembers_refused (nextKey_first (skipGap_solid formed.before.blank rfl _)
      (readText_spells formed.named _)) (refused _)
  | cons formed₂ first more =>
    rw [List.cons_append, List.map_cons, encode_interior_cons, encode_member]
    exact readMembers_next_refused (nextKey_first (skipGap_solid formed₂.before.blank rfl _)
      (readText_spells formed₂.named _)) (first.given formed₂ _ rest)
      (readMembers_later_refused more formed refused formed₂.item.after.blank rest)

/-- An object is read as what is made of the state after its members. -/
theorem readBracketed_fields {expected : String} {member : σ → String → Reader σ}
    {before after : σ} {fields : List Field} {x : α}
    {list object : (input : Bytes) → Except Fault (α × AtMost input)}
    (steps : Steps member before fields after) {inner : List Char} (empty : Spaces inner)
    (made : ∀ input left, Gives (readMembers ending member true before input) after left →
      Gives (object input) x left) {gap : Bytes} (blank : Blank gap) (rest : Bytes) :
    Gives (readBracketed ending expected list (some object)
      (gap ++ (Utf8.encode (objectText inner (fields.map Field.member)) ++ rest))) x rest := by
  obtain ⟨left, close, given⟩ : ∃ left, skipGap left = byte '\x7d' :: rest ∧
      Gives (readMembers ending member true before _) after left :=
    readMembers_fields steps empty rest
  rw [objectText, encode_around, List.map_map]
  exact readBracketed_object (skipGap_solid blank rfl _) (made _ _ given) (closeObject_leaves close)

/-- Members of which each is taken by a state that has no member of its key yet are taken one after
another, if no key that a state keeps stands twice. -/
theorem exists_steps (member : σ → String → Reader σ) (good : σ → Prop)
    (present : σ → String → Prop) {known : List String} {fields : List Field}
    (formed : ∀ field ∈ fields, field.Formed)
    (once : fields.Pairwise fun one other => one.key ∈ known → one.key ≠ other.key)
    (keeps : ∀ {before key input after left}, Gives (member before key input) after left →
      ∀ other, present after other ↔ present before other ∨ (other = key ∧ key ∈ known))
    (taken : ∀ field ∈ fields, ∀ before, good before → ¬ present before field.key →
      ∃ after, field.Makes member before after ∧ good after)
    {before : σ} (start : good before) (absent : ∀ field ∈ fields, ¬ present before field.key) :
    ∃ after, Steps member before fields after ∧ good after ∧
      ∀ key, present before key ∨ (key ∈ known ∧ key ∈ fields.map Field.key) → present after key := by
  induction fields generalizing before with
  | nil => exact ⟨before, .nil before, start, by simp⟩
  | cons field fields ih =>
    obtain ⟨first, more⟩ := List.forall_mem_cons.mp formed
    obtain ⟨apart, rest⟩ := List.pairwise_cons.mp once
    obtain ⟨free, others⟩ := List.forall_mem_cons.mp absent
    obtain ⟨takes, later⟩ := List.forall_mem_cons.mp taken
    obtain ⟨state, made, kept⟩ := takes before start free
    have presence := keeps (made (byte ',') [] (by constructor <;> decide))
    have still : ∀ other ∈ fields, ¬ present state other.key := by
      intro other member there
      rcases (presence _).mp there with earlier | ⟨same, listed⟩
      · exact others other member earlier
      · exact apart other member listed same.symm
    obtain ⟨after, steps, fine, all⟩ := ih more rest later kept still
    refine ⟨after, .cons first made steps, fine, fun key there => ?_⟩
    rw [List.map_cons, List.mem_cons] at there
    rcases there with there | ⟨listed, rfl | there⟩
    · exact all _ (.inl ((presence _).mpr (.inl there)))
    · exact all _ (.inl ((presence _).mpr (.inr ⟨rfl, listed⟩)))
    · exact all _ (.inr ⟨listed, there⟩)

end TermTape.Json

import TermTape.Proofs.Recording.FrameShapes

/-!
# Documents that are objects

The members of a document may stand in any order, with any blanks and with other members between
them (`Layout`, `Holds`). Such a document is read whole as soon as each known member has a value of
its kind, and its frames are left to be decoded (`decode_holds`).
-/
namespace TermTape

open Json (Ending Gives Leaves Blank Delimits Spaces Numeral IsValue IsText Item Field Steps Reader
  ReadsAs ReadsItem listText objectText byte)

variable {ending : Ending} {rest : Bytes}

namespace Recording

/-! ## Members -/

variable {σ : Type} {member : σ → String → Reader σ} {before : σ} {field : Field}

/-- The value of a member is read for a field that is not there yet. -/
theorem makes_put (ending : Ending) {α : Type} {value : Reader α} {x : α} (formed : field.Formed)
    (reads : ReadsAs value field.member.value x) (put : Option α → σ)
    (reader : member before field.key = fieldValue ending field.key none value put) :
    field.Makes member before (put (some x)) := by
  intro d rest delimits
  obtain ⟨h, given⟩ : Gives (Json.memberValue ending value (field.rest (d :: rest))) x (d :: rest) :=
    formed.value reads delimits rest
  refine ⟨h, ?_⟩
  rw [reader]
  simp only [fieldValue, given, bind, Except.bind]
  rfl

/-- A field that is read was not there, and is there. -/
theorem put_of_fieldValue {α : Type} {key : String} {present : Option α} {value : Reader α}
    {put : Option α → σ} {input left : Bytes} {state : σ}
    (given : Gives (fieldValue ending key present value put input) state left) :
    ∃ x, state = put (some x) := by
  obtain ⟨h, given⟩ := given
  unfold fieldValue at given
  split at given
  · cases given
  · obtain ⟨⟨x, rest⟩, -, made⟩ := ok_of_bind given
    cases made
    exact ⟨x, rfl⟩

private theorem same_of_skipMember {input left : Bytes} {state : σ}
    (given : Gives (skipMember ending before input) state left) : state = before := by
  obtain ⟨h, given⟩ := given
  obtain ⟨_, -, given⟩ := ok_of_bind given
  obtain ⟨_, -, made⟩ := ok_of_bind given
  cases made
  rfl

/-- A member of another key is passed over. -/
theorem makes_same (ending : Ending) (formed : field.Formed) (valid : IsValue field.member.value)
    (reader : member before field.key = skipMember ending before) :
    field.Makes member before before := by
  intro d rest delimits
  have blank : Blank (Utf8.encode field.member.later) := formed.item.before.blank
  obtain ⟨h, colon⟩ : Leaves (Json.readColon ending (field.rest (d :: rest))) _ := formed.colon _
  obtain ⟨h₂, skip⟩ : Leaves (Json.skipValue ending _) (d :: rest) :=
    Json.skipValue_passed blank (Json.passed_value valid) delimits rest
  refine ⟨Json.length_lt_trans h h₂, ?_⟩
  rw [reader]
  simp only [skipMember, colon, skip, bind, Except.bind]

/-! ## The environment -/

/-- The keys of an environment. -/
def environmentKeys : List String := ["TERM", "SHELL"]

/-- The value may stand under the key in an environment. -/
inductive OfEnvironment : String → List Char → Prop where
  | term {value : List Char} {text : String} (string : IsText value text) :
      OfEnvironment "TERM" value
  | shell {value : List Char} {text : String} (string : IsText value text) :
      OfEnvironment "SHELL" value
  | other {key : String} {value : List Char} (unknown : key ∉ environmentKeys)
      (valid : IsValue value) : OfEnvironment key value

/-- The value is an environment: an object of texts, or the list of up to two. -/
inductive IsEnvironment : List Char → Prop where
  | object {gap : List Char} {fields : List Field} (empty : Spaces gap)
      (formed : ∀ field ∈ fields, field.Formed)
      (once : fields.Pairwise fun one other => one.key ∈ environmentKeys → one.key ≠ other.key)
      (kinds : ∀ field ∈ fields, OfEnvironment field.key field.member.value) :
      IsEnvironment (objectText gap (fields.map Field.member))
  | list {gap : List Char} {items : List Item} (empty : Spaces gap)
      (spaced : ∀ item ∈ items, item.Spaced) (texts : ∀ item ∈ items, ∃ text, IsText item.value text)
      (few : items.length ≤ 2) : IsEnvironment (listText gap items)

theorem OfEnvironment.isValue {key : String} {value : List Char} (kind : OfEnvironment key value) :
    IsValue value := by
  cases kind with
  | term string => exact string.isValue
  | shell string => exact string.isValue
  | other _ valid => exact valid

theorem IsEnvironment.isValue {value : List Char} (environment : IsEnvironment value) :
    IsValue value := by
  cases environment with
  | object empty formed _ kinds =>
    exact Json.isValue_object empty formed fun field inside => (kinds field inside).isValue
  | list empty spaced texts _ =>
    refine .list empty spaced fun item inside => ?_
    obtain ⟨text, string⟩ := texts item inside
    exact string.isValue

/-- The fields have a value for the key. -/
def EnvironmentFields.Present (fields : EnvironmentFields) (key : String) : Prop :=
  match key with
  | "TERM" => fields.term.isSome
  | "SHELL" => fields.shell.isSome
  | _ => False

theorem EnvironmentFields.not_present_empty (key : String) :
    ¬ EnvironmentFields.Present {} key := by
  unfold Present
  split <;> simp

/-- A member of an environment is there afterwards, and nothing else of these keys changes. -/
theorem environmentMember_present {before after : EnvironmentFields} {key : String}
    {input left : Bytes} (given : Gives (environmentMember ending before key input) after left)
    (other : String) :
    after.Present other ↔ before.Present other ∨ (other = key ∧ key ∈ environmentKeys) := by
  unfold environmentMember at given
  split at given
  · obtain ⟨x, rfl⟩ := put_of_fieldValue given
    unfold EnvironmentFields.Present
    split <;> simp_all [environmentKeys]
  split at given
  · obtain ⟨x, rfl⟩ := put_of_fieldValue given
    unfold EnvironmentFields.Present
    split <;> simp_all [environmentKeys]
  · obtain rfl := same_of_skipMember given
    simp_all [environmentKeys]

private theorem environmentMember_makes (ending : Ending) (formed : field.Formed)
    (kind : OfEnvironment field.key field.member.value) (before : EnvironmentFields)
    (absent : ¬ before.Present field.key) :
    ∃ after, field.Makes (environmentMember ending) before after := by
  obtain ⟨key, member⟩ := field
  cases kind with
  | term string =>
    have none : before.term = none := by simpa [EnvironmentFields.Present] using absent
    exact ⟨_, makes_put ending formed (Json.readsAs_text ending string)
      (fun term => { before with term }) (by simp [environmentMember, none])⟩
  | shell string =>
    have none : before.shell = none := by simpa [EnvironmentFields.Present] using absent
    exact ⟨_, makes_put ending formed (Json.readsAs_text ending string)
      (fun shell => { before with shell }) (by simp [environmentMember, none])⟩
  | other unknown valid =>
    have apart : key ≠ "TERM" ∧ key ≠ "SHELL" := by simpa [environmentKeys] using unknown
    exact ⟨before, makes_same ending formed valid (by simp [environmentMember, apart])⟩

/-- Between brackets, up to two texts are an environment. -/
theorem environmentList_texts (ending : Ending) {gap : List Char} {items : List Item}
    (empty : Spaces gap) (spaced : ∀ item ∈ items, item.Spaced)
    (texts : ∀ item ∈ items, ∃ text, IsText item.value text) (few : items.length ≤ 2) :
    ∃ env, ∀ rest, ∃ left, Json.skipGap left = byte ']' :: rest ∧
      Gives (environmentList ending
        (Utf8.encode (Json.interior gap (items.map Item.text)) ++ byte ']' :: rest)) env left := by
  match items with
  | [] =>
    refine ⟨.empty, fun rest => ?_⟩
    have next : Json.skipGap (Utf8.encode (Json.interior gap ([].map Item.text)) ++ byte ']' :: rest) =
        byte ']' :: rest := Json.skipGap_solid empty.blank rfl rest
    obtain ⟨h, none⟩ := Json.nextField_end ending (Json.readString ending) true next
    exact ⟨_, next, h, by simp [environmentList, none, bind, Except.bind]⟩
  | [first] =>
    have spaced := List.forall_mem_singleton.mp spaced
    obtain ⟨term, string⟩ := List.forall_mem_singleton.mp texts
    refine ⟨⟨term, ""⟩, fun rest => ?_⟩
    have next : Json.skipGap (Json.afterItem first [] rest) = byte ']' :: rest :=
      Json.skipGap_solid spaced.after.blank rfl rest
    obtain ⟨h, one⟩ := (ReadsItem.text ending spaced string).nextField_first ending gap [] rest
    obtain ⟨h₂, none⟩ := Json.nextField_end ending (Json.readString ending) false next
    refine ⟨_, next, Nat.le_trans h₂ h, ?_⟩
    simp [environmentList, one, none, bind, Except.bind]
  | [first, second] =>
    obtain ⟨spaced, others⟩ := List.forall_mem_cons.mp spaced
    obtain ⟨⟨term, string⟩, others₂⟩ := List.forall_mem_cons.mp texts
    have spaced₂ := List.forall_mem_singleton.mp others
    obtain ⟨shell, string₂⟩ := List.forall_mem_singleton.mp others₂
    refine ⟨⟨term, shell⟩, fun rest => ?_⟩
    have next : Json.skipGap (Json.afterItem second [] rest) = byte ']' :: rest :=
      Json.skipGap_solid spaced₂.after.blank rfl rest
    obtain ⟨h, one⟩ :=
      (ReadsItem.text ending spaced string).nextField_first ending gap [second] rest
    obtain ⟨h₂, two⟩ : Gives (Json.nextField ending false (Json.readString ending)
        (Json.afterItem first [second] rest)) (some shell) (Json.afterItem second [] rest) :=
      (ReadsItem.text ending spaced₂ string₂).nextField_later ending spaced.after.blank [] rest
    refine ⟨_, next, Nat.le_trans h₂ h, ?_⟩
    simp [environmentList, one, two, bind, Except.bind]
  | _ :: _ :: _ :: _ => simp at few

/-- An environment is read. -/
theorem readsAs_environment (ending : Ending) {value : List Char} (environment : IsEnvironment value) :
    ∃ env, ReadsAs (readEnvironment ending) value env := by
  cases environment with
  | @object gap fields empty formed once kinds =>
    have taken : ∀ field ∈ fields, ∀ before : EnvironmentFields, True → ¬ before.Present field.key →
        ∃ after, field.Makes (environmentMember ending) before after ∧ True := by
      intro field inside before _ absent
      obtain ⟨after, made⟩ :=
        environmentMember_makes ending (formed field inside) (kinds field inside) before absent
      exact ⟨after, made, trivial⟩
    obtain ⟨after, steps, -⟩ := Json.exists_steps (environmentMember ending) (fun _ => True)
      EnvironmentFields.Present formed once environmentMember_present taken trivial
      fun field _ => EnvironmentFields.not_present_empty field.key
    refine ⟨after.environment, fun _ d rest blank _ =>
      Json.readBracketed_fields steps empty (fun input left given => ?_) blank (d :: rest)⟩
    obtain ⟨h, given⟩ := given
    exact ⟨h, by simp [environmentObject, given, bind, Except.bind]⟩
  | @list gap items empty spaced texts few =>
    obtain ⟨env, given⟩ := environmentList_texts ending empty spaced texts few
    refine ⟨env, fun _ d rest blank _ => ?_⟩
    obtain ⟨left, close, given⟩ := given (d :: rest)
    rw [listText, Json.encode_around]
    exact Json.readBracketed_list (Json.skipGap_solid blank rfl _) given (Json.closeList_leaves close)

/-! ## The document -/

/-- The keys of a document. -/
def documentKeys : List String :=
  ["version", "width", "height", "duration", "command", "title", "env", "stdout"]

/-- The value may stand under the key in a document of the current version with these items of
`stdout`. -/
inductive OfDocument (items : List Item) : String → List Char → Prop where
  | version {value : List Char} (current : value = ['1']) : OfDocument items "version" value
  | width {value : List Char} {n : Nat} (small : n ≤ 65535) (digits : value = Nat.toDigits 10 n) :
      OfDocument items "width" value
  | height {value : List Char} {n : Nat} (small : n ≤ 65535) (digits : value = Nat.toDigits 10 n) :
      OfDocument items "height" value
  | noDuration {value : List Char} (null : value = ['n', 'u', 'l', 'l']) :
      OfDocument items "duration" value
  | duration {value : List Char} {numeral : Numeral} (number : value = numeral.text)
      (finite : numeral.value.isFinite = true) : OfDocument items "duration" value
  | command {value : List Char} {text : String} (string : IsText value text) :
      OfDocument items "command" value
  | title {value : List Char} {text : String} (string : IsText value text) :
      OfDocument items "title" value
  | env {value : List Char} (environment : IsEnvironment value) : OfDocument items "env" value
  | stdout {value gap : List Char} (empty : Spaces gap) (list : value = listText gap items)
      (spaced : ∀ item ∈ items, item.Spaced) (values : ∀ item ∈ items, IsValue item.value) :
      OfDocument items "stdout" value
  | other {key : String} {value : List Char} (unknown : key ∉ documentKeys) (valid : IsValue value) :
      OfDocument items key value

theorem OfDocument.isValue {items : List Item} {key : String} {value : List Char}
    (kind : OfDocument items key value) : IsValue value := by
  cases kind with
  | version current => exact current ▸ .number ⟨false, 1, [], List.forall_mem_nil _, none⟩
  | width _ digits => exact digits ▸ Json.isValue_digits _
  | height _ digits => exact digits ▸ Json.isValue_digits _
  | noDuration null => exact null ▸ .null
  | duration number _ => exact number ▸ .number _
  | command string => exact string.isValue
  | title string => exact string.isValue
  | env environment => exact environment.isValue
  | stdout empty list spaced values => exact list ▸ .list empty spaced values
  | other _ valid => exact valid

/-- The fields have a value for the key. -/
def Fields.Present (fields : Fields) (key : String) : Prop :=
  match key with
  | "version" => fields.version.isSome
  | "width" => fields.width.isSome
  | "height" => fields.height.isSome
  | "duration" => fields.duration.isSome
  | "command" => fields.command.isSome
  | "title" => fields.title.isSome
  | "env" => fields.env.isSome
  | "stdout" => fields.stdout.isSome
  | _ => False

theorem Fields.not_present_empty (key : String) : ¬ Fields.Present {} key := by
  unfold Present
  split <;> simp

/-- The values of items as they are written. -/
def rawItems (items : List Item) : List Bytes := items.map fun item => Utf8.encode item.value

/-- The fields that are there are of the current version and have these items of `stdout`. -/
structure Fields.Right (items : List Item) (fields : Fields) : Prop where
  version : ∀ version, fields.version = some version → version = currentVersion.toNat
  stdout : ∀ raws, fields.stdout = some raws → raws = rawItems items

/-- The keys of a document that have no value of their own, and that of its frames. -/
def requiredKeys : List String := ["version", "width", "height", "stdout"]

private theorem Fields.Right.exists_header {items : List Item} {fields : Fields}
    (right : fields.Right items) (there : ∀ key ∈ requiredKeys, fields.Present key) :
    ∃ header, fields.header = .ok header ∧ header.version = currentVersion.toNat ∧
      header.stdout = rawItems items := by
  obtain ⟨version, hasVersion⟩ := Option.isSome_iff_exists.mp (there "version" (by decide))
  obtain ⟨width, hasWidth⟩ := Option.isSome_iff_exists.mp (there "width" (by decide))
  obtain ⟨height, hasHeight⟩ := Option.isSome_iff_exists.mp (there "height" (by decide))
  obtain ⟨stdout, hasStdout⟩ := Option.isSome_iff_exists.mp (there "stdout" (by decide))
  refine ⟨⟨version, width, height, fields.duration.getD none, fields.command.getD "",
    fields.title.getD "", fields.env.getD .empty, stdout⟩, ?_, right.version _ hasVersion,
    right.stdout _ hasStdout⟩
  simp [header, hasVersion, hasWidth, hasHeight, hasStdout, required, bind, Except.bind]

/-- The number of the current version. -/
theorem readsAs_version (ending : Ending) : ReadsAs (readVersion ending) ['1'] 1 := by
  have digits : Nat.toDigits 10 1 = ['1'] := by decide
  have reads : ReadsAs (readVersion ending) (Nat.toDigits 10 1) 1 :=
    Json.readsAs_whole ending (by decide) (Nat.le_refl _)
  rwa [digits] at reads

private theorem readsAs_size (ending : Ending) {n : Nat} (small : n ≤ 65535) :
    ReadsAs (readSize ending) (Nat.toDigits 10 n) n :=
  Json.readsAs_whole ending small (by decide)

private theorem readsAs_rawFrames (ending : Ending) {gap : List Char} {items : List Item}
    (empty : Spaces gap) (spaced : ∀ item ∈ items, item.Spaced)
    (values : ∀ item ∈ items, IsValue item.value) :
    ReadsAs (readRawFrames ending) (listText gap items)
      (rawItems items) := by
  refine Json.readsAs_list ending ?_ empty
  rw [rawItems, List.forall₂_map_right_iff, List.forall₂_same]
  exact fun item inside => .raw ending (spaced item inside) (values item inside)

/-- A member of a document is there afterwards, and nothing else of these keys changes. -/
theorem documentMember_present {before after : Fields} {key : String} {input left : Bytes}
    (given : Gives (documentMember ending before key input) after left) (other : String) :
    after.Present other ↔ before.Present other ∨ (other = key ∧ key ∈ documentKeys) := by
  unfold documentMember at given
  split at given
  case h_9 =>
    obtain rfl := same_of_skipMember given
    simp_all [documentKeys]
  all_goals
    obtain ⟨x, rfl⟩ := put_of_fieldValue given
    unfold Fields.Present
    split <;> simp_all [documentKeys]

/-- A member of a document is taken by fields that have no value for its key. -/
theorem documentMember_makes (ending : Ending) {items : List Item} (formed : field.Formed)
    (kind : OfDocument items field.key field.member.value) (before : Fields)
    (right : before.Right items) (absent : ¬ before.Present field.key) :
    ∃ after, field.Makes (documentMember ending) before after ∧ after.Right items := by
  obtain ⟨key, member⟩ := field
  obtain ⟨version, stdout⟩ := right
  cases kind with
  | version current =>
    have free : before.version = none := by simpa [Fields.Present] using absent
    have reads : ReadsAs (readVersion ending) member.value 1 := current ▸ readsAs_version ending
    exact ⟨_, makes_put ending formed reads (fun version => { before with version })
      (by simp [documentMember, free]), by simp [currentVersion], stdout⟩
  | @width _ n small digits =>
    have free : before.width = none := by simpa [Fields.Present] using absent
    have reads : ReadsAs (readSize ending) member.value n := digits ▸ readsAs_size ending small
    exact ⟨_, makes_put ending formed reads (fun width => { before with width })
      (by simp [documentMember, free]), version, stdout⟩
  | @height _ n small digits =>
    have free : before.height = none := by simpa [Fields.Present] using absent
    have reads : ReadsAs (readSize ending) member.value n := digits ▸ readsAs_size ending small
    exact ⟨_, makes_put ending formed reads (fun height => { before with height })
      (by simp [documentMember, free]), version, stdout⟩
  | noDuration null =>
    have free : before.duration = none := by simpa [Fields.Present] using absent
    have reads : ReadsAs (Json.readOptionalReal ending) member.value none :=
      null ▸ Json.readsAs_null ending
    exact ⟨_, makes_put ending formed reads (fun duration => { before with duration })
      (by simp [documentMember, free]), version, stdout⟩
  | @duration _ numeral number finite =>
    have free : before.duration = none := by simpa [Fields.Present] using absent
    have reads : ReadsAs (Json.readOptionalReal ending) member.value (some numeral.value) :=
      number ▸ Json.readsAs_number ending finite
    exact ⟨_, makes_put ending formed reads (fun duration => { before with duration })
      (by simp [documentMember, free]), version, stdout⟩
  | command string =>
    have free : before.command = none := by simpa [Fields.Present] using absent
    exact ⟨_, makes_put ending formed (Json.readsAs_text ending string)
      (fun command => { before with command }) (by simp [documentMember, free]), version, stdout⟩
  | title string =>
    have free : before.title = none := by simpa [Fields.Present] using absent
    exact ⟨_, makes_put ending formed (Json.readsAs_text ending string)
      (fun title => { before with title }) (by simp [documentMember, free]), version, stdout⟩
  | env environment =>
    have free : before.env = none := by simpa [Fields.Present] using absent
    obtain ⟨env, reads⟩ := readsAs_environment ending environment
    exact ⟨_, makes_put ending formed reads (fun env => { before with env })
      (by simp [documentMember, free]), version, stdout⟩
  | stdout empty list spaced values =>
    have free : before.stdout = none := by simpa [Fields.Present] using absent
    have reads : ReadsAs (readRawFrames ending) member.value _ :=
      list ▸ readsAs_rawFrames ending empty spaced values
    exact ⟨_, makes_put ending formed reads (fun stdout => { before with stdout })
      (by simp [documentMember, free]), version, by simp⟩
  | other unknown valid =>
    refine ⟨before, makes_same ending formed valid ?_, version, stdout⟩
    unfold documentMember
    split
    case h_9 => rfl
    all_goals simp_all [documentKeys]

/-- A document as its parts stand in the text. -/
structure Layout where
  before : List Char
  gap : List Char
  fields : List Field
  after : List Char

/-- The text of a document. -/
def Layout.text (layout : Layout) : List Char :=
  layout.before ++ (objectText layout.gap (layout.fields.map Field.member) ++ layout.after)

/-- The document is an object of the grammar in which no known key stands twice, each known key has a
value of its kind, those that have no value of their own are there, and `stdout` lists the items. -/
structure Layout.Holds (layout : Layout) (items : List Item) : Prop where
  before : Spaces layout.before
  gap : Spaces layout.gap
  after : Spaces layout.after
  formed : ∀ field ∈ layout.fields, field.Formed
  once : layout.fields.Pairwise fun one other => one.key ∈ documentKeys → one.key ≠ other.key
  kinds : ∀ field ∈ layout.fields, OfDocument items field.key field.member.value
  complete : ∀ key ∈ requiredKeys, key ∈ layout.fields.map Field.key

variable {layout : Layout} {items : List Item}

/-- Such a document is an object of the grammar. -/
theorem Layout.Holds.isValue (holds : layout.Holds items) :
    IsValue (objectText layout.gap (layout.fields.map Field.member)) :=
  Json.isValue_object holds.gap holds.formed fun field inside => (holds.kinds field inside).isValue

private theorem exists_steps_holds (holds : layout.Holds items) (ending : Ending) :
    ∃ fields, Steps (documentMember ending) {} layout.fields fields ∧ fields.Right items ∧
      ∀ key ∈ requiredKeys, fields.Present key := by
  have taken : ∀ field ∈ layout.fields, ∀ before : Fields, before.Right items →
      ¬ before.Present field.key → ∃ after, field.Makes (documentMember ending) before after ∧
        after.Right items :=
    fun field inside => documentMember_makes ending (holds.formed field inside) (holds.kinds field inside)
  have start : Fields.Right items {} := ⟨by simp, by simp⟩
  obtain ⟨fields, steps, right, all⟩ := Json.exists_steps (documentMember ending) (Fields.Right items)
    Fields.Present holds.formed holds.once documentMember_present taken start
    fun field _ => Fields.not_present_empty field.key
  refine ⟨fields, steps, right, fun key required => all key (.inr ⟨?_, holds.complete key required⟩)⟩
  have known : ∀ key ∈ requiredKeys, key ∈ documentKeys := by decide
  exact known key required

/-- A document that is an object is read whole. -/
theorem readHeader_holds (holds : layout.Holds items) :
    ∃ header, readHeader .ends (Utf8.encode layout.text) = .ok header ∧
      header.version = currentVersion.toNat ∧ header.stdout = rawItems items := by
  obtain ⟨fields, steps, right, there⟩ := exists_steps_holds holds .ends
  obtain ⟨header, complete, version, stdout⟩ := right.exists_header there
  refine ⟨header, ?_, version, stdout⟩
  obtain ⟨h, given⟩ : Gives (Json.readBracketed .ends "struct RawDocument" (documentList .ends)
      (some (documentObject .ends)) (Utf8.encode layout.text)) header (Utf8.encode layout.after) := by
    rw [Layout.text, Utf8.encode_append, Utf8.encode_append]
    exact Json.readBracketed_fields steps holds.gap
      (fun _ _ given => documentObject_gives given complete) holds.before.blank _
  have nothing : Json.skipGap (Utf8.encode layout.after ++ []) = [] :=
    Json.skipGap_append holds.after.blank []
  rw [List.append_nil] at nothing
  simp only [readHeader, given, bind, Except.bind, Json.readEnd, nothing]
  rfl

theorem decode_holds (holds : layout.Holds items) :
    ∃ made : List Frame → Recording, (∀ frames, (made frames).frames = frames) ∧
      decode (Utf8.encode layout.text) = (decodeFrames 0 (rawItems items)).map made := by
  obtain ⟨header, read, version, stdout⟩ := readHeader_holds holds
  refine ⟨fun frames => ⟨currentVersion, header.width.toUInt16, header.height.toUInt16,
    header.duration.getD (totalDelay frames), header.command, header.title, header.env, frames⟩,
    fun _ => rfl, ?_⟩
  rw [decode, decodeFrom, read, ← stdout]
  simp only [Except.mapError, bind, Except.bind, ofHeader, version, bne_self_eq_false,
    Bool.false_eq_true, if_false]
  cases decodeFrames 0 header.stdout <;> rfl

end Recording
end TermTape

import TermTape.Json.Shape
import TermTape.Recording.Basic

/-!
# Reading documents

A document is an object with known fields in any order, or the list of these fields in their own
order; other fields are passed over. Frames are kept as they are written until the whole document
has been read. Then its version is checked, and each frame has to be a pair of a delay, which is no
less than zero, and a frame text.
-/
namespace TermTape.Recording

open Json (Reader Ending Shorter AtMost)

variable [Json.Rounding]

/-! ## Fields -/

/-- The fields of a document that have been read. -/
structure Fields where
  version : Option Nat := none
  width : Option Nat := none
  height : Option Nat := none
  duration : Option (Option Binary64) := none
  command : Option String := none
  title : Option String := none
  env : Option Environment := none
  stdout : Option (List Bytes) := none

/-- The fields of a document that are all there, or have a value of their own when they are not. -/
structure Header where
  version : Nat
  width : Nat
  height : Nat
  duration : Option Binary64
  command : String
  title : String
  env : Environment
  stdout : List Bytes

/-- A value that a document has to have. -/
def required {α : Type} (field : String) : Option α → Except Json.Fault α
  | some x => .ok x
  | none => .error (.missing field)

/-- The fields of a document whose members have all been read. -/
def Fields.header (fields : Fields) : Except Json.Fault Header := do
  let version ← required "version" fields.version
  let width ← required "width" fields.width
  let height ← required "height" fields.height
  .ok {
    version, width, height
    duration := fields.duration.getD none
    command := fields.command.getD ""
    title := fields.title.getD ""
    env := fields.env.getD .empty
    stdout := fields.stdout.getD [] }

/-- A whole number of sixteen bits. -/
def readSize (ending : Ending) : Reader Nat := Json.readWholeUpTo ending 65535 "u16"

/-- A whole number of sixty-four bits. -/
def readVersion (ending : Ending) : Reader Nat := Json.readWholeUpTo ending Json.greatestWhole "u64"

/-- The value of a field that may stand once; its key is refused when it has a value already. -/
def fieldValue {α σ : Type} (ending : Ending) (key : String) (present : Option α)
    (value : Reader α) (put : Option α → σ) : Reader σ := fun input => do
  if present.isSome then .error (.repeated key)
  else
    let (x, rest) ← Json.memberValue ending value input
    .ok (put (some x), rest)

/-- The value of a member that is passed over. -/
def skipMember {σ : Type} (ending : Ending) (state : σ) : Reader σ := fun input => do
  let ⟨rest, h⟩ ← Json.readColon ending input
  let ⟨rest₂, h₂⟩ ← Json.skipValue ending rest
  .ok (state, ⟨rest₂, Json.length_lt_trans h h₂⟩)

/-! ## The environment -/

/-- The fields of an environment that have been read. -/
structure EnvironmentFields where
  term : Option String := none
  shell : Option String := none

/-- The environment of its fields, which are empty when they are not there. -/
def EnvironmentFields.environment (fields : EnvironmentFields) : Environment :=
  ⟨fields.term.getD "", fields.shell.getD ""⟩

/-- A member of an environment. -/
def environmentMember (ending : Ending) (fields : EnvironmentFields) (key : String) :
    Reader EnvironmentFields :=
  if key == "TERM" then
    fieldValue ending key fields.term (Json.readString ending) fun term => { fields with term }
  else if key == "SHELL" then
    fieldValue ending key fields.shell (Json.readString ending) fun shell => { fields with shell }
  else skipMember ending fields

/-- An environment written as a list. -/
def environmentList (ending : Ending) (input : Bytes) :
    Except Json.Fault (Environment × AtMost input) := do
  let (term, ⟨rest, h⟩) ← Json.nextField ending true (Json.readString ending) input
  match term with
  | none => .ok (.empty, ⟨rest, h⟩)
  | some term =>
    let (shell, ⟨rest₂, h₂⟩) ← Json.nextField ending false (Json.readString ending) rest
    .ok (⟨term, shell.getD ""⟩, ⟨rest₂, by omega⟩)

/-- An environment written as an object. -/
def environmentObject (ending : Ending) (input : Bytes) :
    Except Json.Fault (Environment × AtMost input) := do
  let (fields, rest) ← Json.readMembers ending (environmentMember ending) true {} input
  .ok (fields.environment, rest)

/-- An environment. -/
def readEnvironment (ending : Ending) : Reader Environment :=
  Json.readBracketed ending "struct Env" (environmentList ending)
    (some (environmentObject ending))

/-! ## The document -/

/-- The frames of a document as they are written. -/
def readRawFrames (ending : Ending) : Reader (List Bytes) :=
  Json.readListOf ending (Json.readRaw ending)

/-- A member of a document. -/
def documentMember (ending : Ending) (fields : Fields) (key : String) : Reader Fields :=
  match key with
  | "version" =>
    fieldValue ending key fields.version (readVersion ending) fun version =>
      { fields with version }
  | "width" =>
    fieldValue ending key fields.width (readSize ending) fun width => { fields with width }
  | "height" =>
    fieldValue ending key fields.height (readSize ending) fun height => { fields with height }
  | "duration" =>
    fieldValue ending key fields.duration (Json.readOptionalReal ending) fun duration =>
      { fields with duration }
  | "command" =>
    fieldValue ending key fields.command (Json.readString ending) fun command =>
      { fields with command }
  | "title" =>
    fieldValue ending key fields.title (Json.readString ending) fun title => { fields with title }
  | "env" =>
    fieldValue ending key fields.env (readEnvironment ending) fun env => { fields with env }
  | "stdout" =>
    fieldValue ending key fields.stdout (readRawFrames ending) fun stdout =>
      { fields with stdout }
  | _ => skipMember ending fields

/-- A document written as an object. -/
def documentObject (ending : Ending) (input : Bytes) :
    Except Json.Fault (Header × AtMost input) := do
  let (fields, rest) ← Json.readMembers ending (documentMember ending) true {} input
  let header ← fields.header
  .ok (header, rest)

/-- A field that a document written as a list has to have. -/
def listed {α : Type} (count : Nat) : Option α → Except Json.Fault α
  | some x => .ok x
  | none => .error (.wrongLength count "struct RawDocument with 8 elements")

/-- A document written as a list; after its sizes the list may end anywhere. -/
def documentList (ending : Ending) (input : Bytes) :
    Except Json.Fault (Header × AtMost input) := do
  let (version, ⟨r₁, h₁⟩) ← Json.nextField ending true (readVersion ending) input
  let version ← listed 0 version
  let (width, ⟨r₂, h₂⟩) ← Json.nextField ending false (readSize ending) r₁
  let width ← listed 1 width
  let (height, ⟨r₃, h₃⟩) ← Json.nextField ending false (readSize ending) r₂
  let height ← listed 2 height
  let (duration, ⟨r₄, h₄⟩) ← Json.nextField ending false (Json.readOptionalReal ending) r₃
  let (command, ⟨r₅, h₅⟩) ← Json.nextField ending false (Json.readString ending) r₄
  let (title, ⟨r₆, h₆⟩) ← Json.nextField ending false (Json.readString ending) r₅
  let (env, ⟨r₇, h₇⟩) ← Json.nextField ending false (readEnvironment ending) r₆
  let (stdout, ⟨r₈, h₈⟩) ← Json.nextField ending false (readRawFrames ending) r₇
  let header : Header := {
    version, width, height
    duration := duration.getD none
    command := command.getD ""
    title := title.getD ""
    env := env.getD .empty
    stdout := stdout.getD [] }
  .ok (header, ⟨r₈, by omega⟩)

/-- The fields of a document and nothing after it. -/
def readHeader (ending : Ending) (input : Bytes) : Except Json.Fault Header := do
  let (header, ⟨rest, _⟩) ← Json.readBracketed ending "struct RawDocument"
    (documentList ending) (some (documentObject ending)) input
  Json.readEnd ending rest
  .ok header

/-! ## Frames -/

/-- The two parts of a frame that is a pair. -/
def framePair (input : Bytes) : Except Json.Fault ((Binary64 × Bytes) × AtMost input) := do
  let (delay, ⟨r₁, h₁⟩) ← Json.nextField .ends true (Json.readReal .ends) input
  match delay with
  | none => .error (.wrongLength 0 "a tuple of size 2")
  | some delay =>
    let (text, ⟨r₂, h₂⟩) ← Json.nextField .ends false (Json.readRaw .ends) r₁
    match text with
    | none => .error (.wrongLength 1 "a tuple of size 2")
    | some text => .ok ((delay, text), ⟨r₂, by omega⟩)

/-- The delay of a frame and its text as it is written. -/
def readPair (raw : Bytes) : Except Json.Fault (Binary64 × Bytes) := do
  let (pair, ⟨rest, _⟩) ← Json.readBracketed .ends "a tuple of size 2" framePair none raw
  Json.readEnd .ends rest
  .ok pair

/-- A frame from its text in the document. -/
def decodeFrame (raw : Bytes) : Except DocumentFault Frame := do
  let (delay, text) ← (readPair raw).mapError .json
  if delay.isFinite && !delay.isBelowZero then
    let data ← (FrameText.decode text).mapError .frameText
    .ok ⟨delay, data⟩
  else .error (.negativeDelay delay)

/-- The frames of a document from the one of an index on. -/
def decodeFrames (index : Nat) : List Bytes → Except DocumentFault (List Frame)
  | [] => .ok []
  | raw :: rest =>
    match decodeFrame raw with
    | .error fault => .error (.inFrame index fault)
    | .ok frame => (decodeFrames (index + 1) rest).map (frame :: ·)

/-- The recording of the fields of a document; its duration is that of its frames when the document
gives none. -/
def ofHeader (header : Header) : Except DocumentFault Recording := do
  if header.version != currentVersion.toNat then .error (.unknownVersion header.version)
  else
    let frames ← decodeFrames 0 header.stdout
    .ok {
      version := currentVersion
      width := header.width.toUInt16
      height := header.height.toUInt16
      duration := header.duration.getD (totalDelay frames)
      command := header.command
      title := header.title
      env := header.env
      frames }

/-- The recording of a document that a source yields. -/
def decodeFrom (ending : Ending) (input : Bytes) : Except DocumentFault Recording := do
  let header ← (readHeader ending input).mapError .json
  ofHeader header

/-- The recording of a document that is read byte by byte. -/
def decodeSource (replies : List Json.ByteReply) : Except DocumentFault Recording :=
  let (input, ending) := Json.received replies
  decodeFrom ending input

/-- The recording of a document. -/
def decode (input : Bytes) : Except DocumentFault Recording := decodeFrom .ends input

end TermTape.Recording

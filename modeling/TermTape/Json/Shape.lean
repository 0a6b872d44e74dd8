import TermTape.Json.Items

/-!
# JSON values of a shape

Readers of values that have to be of one kind: whole numbers up to a limit, real numbers, texts,
lists, and objects that may also be written as the list of their fields. A value of another kind is
a fault that names what was found; of a list or an object it is found at the bracket, of anything
else once it has been read.
-/
namespace TermTape.Json

variable [Rounding]

/-- What a value turns out to be. -/
def readFound (ending : Ending) : Bytes → Except Fault Found
  | [] => breach .expectedValue
  | b :: rest => do
    if b == byte 'n' then
      let _ ← readName ending nullTail rest
      .ok .null
    else if b == byte 't' then
      let _ ← readName ending trueTail rest
      .ok (.truth true)
    else if b == byte 'f' then
      let _ ← readName ending falseTail rest
      .ok (.truth false)
    else if b == byte '-' then
      let (number, _) ← readNumber ending true rest
      .ok (.number number)
    else if isDigit b then
      let (number, _) ← readNumber ending false (b :: rest)
      .ok (.number number)
    else if b == byte '"' then
      let (text, _) ← readText ending rest
      .ok (.text text)
    else if b == byte '[' then .ok .list
    else if b == byte '{' then .ok .object
    else breach .expectedValue

/-- The fault of a value of another kind. -/
def refuseKind {α : Type} (ending : Ending) (expected : String) (input : Bytes) :
    Except Fault α := do
  let found ← readFound ending input
  .error (.wrongKind found expected)

/-- A number of any form. -/
def readAnyNumber (ending : Ending) (expected : String) : Reader Number := fun input => do
  match h : skipGap input with
  | [] => ending.atEnd .endInValue
  | b :: rest =>
    if b == byte '-' then
      let (number, ⟨rest₂, h₂⟩) ← readNumber ending true rest
      .ok (number, ⟨rest₂, length_lt_of_skipGap_lt h h₂⟩)
    else if isDigit b then
      let (number, ⟨rest₂, h₂⟩) ← readNumber ending false (b :: rest)
      .ok (number, ⟨rest₂, length_lt_of_skipGap_cons h h₂⟩)
    else refuseKind ending expected (b :: rest)

/-- A whole number up to a limit. -/
def readWholeUpTo (ending : Ending) (limit : Nat) (expected : String) : Reader Nat :=
  fun input => do
  let (number, rest) ← readAnyNumber ending expected input
  match number with
  | .whole n =>
    if n ≤ limit then .ok (n, rest) else .error (.wrongValue (.number number) expected)
  | .negative _ => .error (.wrongValue (.number number) expected)
  | .real _ => .error (.wrongKind (.number number) expected)

/-- The nearest real number of a number. -/
def Number.toReal : Number → Binary64
  | .whole n => .ofNat n
  | .negative i => .ofInt i
  | .real x => x

/-- A real number. -/
def readReal (ending : Ending) : Reader Binary64 := fun input => do
  let (number, rest) ← readAnyNumber ending "f64" input
  .ok (number.toReal, rest)

/-- A real number or `null`. -/
def readOptionalReal (ending : Ending) : Reader (Option Binary64) := fun input => do
  match h : skipGap input with
  | b :: rest =>
    if b == byte 'n' then
      let ⟨rest₂, h₂⟩ ← readName ending nullTail rest
      .ok (none, ⟨rest₂, length_lt_of_skipGap_le h h₂⟩)
    else
      let (x, rest) ← readReal ending input
      .ok (some x, rest)
  | [] =>
    let (x, rest) ← readReal ending input
    .ok (some x, rest)

/-- A text, where a fault names what is expected. -/
def readNamedString (ending : Ending) (expected : String) : Reader String := fun input => do
  match h : skipGap input with
  | [] => ending.atEnd .endInValue
  | b :: rest =>
    if b == byte '"' then
      let (text, ⟨rest₂, h₂⟩) ← readText ending rest
      .ok (text, ⟨rest₂, length_lt_of_skipGap_lt h h₂⟩)
    else refuseKind ending expected (b :: rest)

/-- A text. -/
def readString (ending : Ending) : Reader String := readNamedString ending "a string"

/-- A value between brackets: a list, or an object where one is expected. The fault of a value comes
before that of the closing bracket. -/
def readBracketed {α : Type} (ending : Ending) (expected : String)
    (list : (input : Bytes) → Except Fault (α × AtMost input))
    (object : Option ((input : Bytes) → Except Fault (α × AtMost input))) : Reader α :=
  fun input => do
  match h : skipGap input with
  | [] => ending.atEnd .endInValue
  | b :: rest =>
    if b == byte '[' then
      let (x, ⟨rest₂, h₂⟩) ← list rest
      let ⟨rest₃, h₃⟩ ← closeList ending rest₂
      .ok (x, ⟨rest₃, length_lt_after_closing h h₂ h₃⟩)
    else if b == byte '{' then
      match object with
      | none => refuseKind ending expected (b :: rest)
      | some object =>
        let (x, ⟨rest₂, h₂⟩) ← object rest
        let ⟨rest₃, h₃⟩ ← closeObject ending rest₂
        .ok (x, ⟨rest₃, length_lt_after_closing h h₂ h₃⟩)
    else refuseKind ending expected (b :: rest)

/-- A list of values. -/
def readListOf {α : Type} (ending : Ending) (item : Reader α) : Reader (List α) :=
  readBracketed ending "a sequence" (readItems ending item true []) none

/-- The next field of an object that is written as a list, or nothing where the list ends. -/
def nextField {α : Type} (ending : Ending) (first : Bool) (value : Reader α) (input : Bytes) :
    Except Fault (Option α × AtMost input) := do
  match ← nextItem ending first input with
  | none => .ok (none, AtMost.all input)
  | some ⟨start, h⟩ =>
    let (x, ⟨rest, h₂⟩) ← value start
    .ok (some x, ⟨rest, length_le_of_le_of_lt h h₂⟩)

end TermTape.Json

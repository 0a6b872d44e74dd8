import TermTape.Json.Number
import TermTape.Json.Skip

/-!
# Lists and objects of JSON

The items of a list and the members of an object, read one after another from inside the brackets
(`readItems`, `readMembers`), and the brackets that close them.
-/
namespace TermTape.Json

/-! ## Lists -/

theorem length_le_of_second {input rest more : Bytes} {b c : UInt8}
    (h : skipGap input = b :: rest) (h₂ : skipGap rest = c :: more) :
    (c :: more).length ≤ input.length :=
  Nat.le_of_lt (Nat.lt_of_le_of_lt (length_cons_le_of_skipGap h₂) (length_lt_of_skipGap h))

theorem length_lt_of_second {input rest more left : Bytes} {b c : UInt8}
    (h : skipGap input = b :: rest) (h₂ : skipGap rest = c :: more)
    (h₃ : left.length < more.length) : left.length < input.length :=
  Nat.lt_trans (length_lt_of_skipGap_lt h₂ h₃) (length_lt_of_skipGap h)

/-- The input at the next item of a list, or nothing before the closing bracket. -/
def nextItem (ending : Ending) (first : Bool) (input : Bytes) :
    Except Fault (Option (AtMost input)) :=
  match h : skipGap input with
  | [] => ending.atEnd .endInList
  | b :: rest =>
    if b == byte ']' then .ok none
    else if first then .ok (some ⟨b :: rest, length_cons_le_of_skipGap h⟩)
    else if b == byte ',' then
      match h₂ : skipGap rest with
      | [] => ending.atEnd .endInValue
      | c :: more =>
        if c == byte ']' then breach .trailingComma
        else .ok (some ⟨c :: more, length_le_of_second h h₂⟩)
    else breach .expectedListEnd

/-- The bracket that closes a list whose items have been read. -/
def closeList (ending : Ending) (input : Bytes) : Except Fault (Shorter input) :=
  match h : skipGap input with
  | [] => ending.atEnd .endInList
  | b :: rest =>
    if b == byte ']' then .ok ⟨rest, length_lt_of_skipGap h⟩
    else if b == byte ',' then
      match skipGap rest with
      | c :: _ => breach (if c == byte ']' then .trailingComma else .trailingCharacters)
      | [] => breach .trailingCharacters
    else breach .trailingCharacters

/-- A reader of one value. -/
abbrev Reader (α : Type) := (input : Bytes) → Except Fault (α × Shorter input)

/-- The items of a list from inside its brackets, after those read before in reverse order; then the
rest of the input. -/
def readItems {α : Type} (ending : Ending) (item : Reader α) (first : Bool) (before : List α)
    (input : Bytes) : Except Fault (List α × AtMost input) := do
  match ← nextItem ending first input with
  | none => .ok (before.reverse, AtMost.all input)
  | some ⟨start, h⟩ =>
    let (value, ⟨rest, h₂⟩) ← item start
    let (values, ⟨rest₂, h₃⟩) ← readItems ending item false (value :: before) rest
    .ok (values, ⟨rest₂, by omega⟩)
termination_by input.length

/-! ## Objects -/

/-- The key of the next member of an object and the input after it, or nothing before the closing
bracket. -/
def nextKey (ending : Ending) (first : Bool) (input : Bytes) :
    Except Fault (Option (String × Shorter input)) := do
  match h : skipGap input with
  | [] => ending.atEnd .endInObject
  | b :: rest =>
    if b == byte '}' then .ok none
    else if first then
      if b == byte '"' then
        let (key, ⟨rest₂, h₂⟩) ← readText ending rest
        .ok (some (key, ⟨rest₂, length_lt_of_skipGap_lt h h₂⟩))
      else breach .keyNotString
    else if b == byte ',' then
      match h₂ : skipGap rest with
      | [] => ending.atEnd .endInValue
      | c :: more =>
        if c == byte '"' then
          let (key, ⟨rest₂, h₃⟩) ← readText ending more
          .ok (some (key, ⟨rest₂, length_lt_of_second h h₂ h₃⟩))
        else if c == byte '}' then breach .trailingComma
        else breach .keyNotString
    else breach .expectedObjectEnd

/-- The colon between a key and its value. -/
def readColon (ending : Ending) (input : Bytes) : Except Fault (Shorter input) :=
  match h : skipGap input with
  | [] => ending.atEnd .endInObject
  | b :: rest =>
    if b == byte ':' then .ok ⟨rest, length_lt_of_skipGap h⟩
    else breach .expectedColon

/-- The bracket that closes an object whose members have been read. -/
def closeObject (ending : Ending) (input : Bytes) : Except Fault (Shorter input) :=
  match h : skipGap input with
  | [] => ending.atEnd .endInObject
  | b :: rest =>
    if b == byte '}' then .ok ⟨rest, length_lt_of_skipGap h⟩
    else if b == byte ',' then breach .trailingComma
    else breach .trailingCharacters

/-- The members of an object from inside its brackets, each given to a state together with the input
after its key. -/
def readMembers {σ : Type} (ending : Ending) (member : σ → String → Reader σ) (first : Bool)
    (state : σ) (input : Bytes) : Except Fault (σ × AtMost input) := do
  match ← nextKey ending first input with
  | none => .ok (state, AtMost.all input)
  | some (key, ⟨start, h⟩) =>
    let (state, ⟨rest, h₂⟩) ← member state key start
    let (state, ⟨rest₂, h₃⟩) ← readMembers ending member false state rest
    .ok (state, ⟨rest₂, by omega⟩)
termination_by input.length

/-- The value of a member after its key. -/
def memberValue {α : Type} (ending : Ending) (value : Reader α) : Reader α := fun input => do
  let ⟨rest, h⟩ ← readColon ending input
  let (x, ⟨rest₂, h₂⟩) ← value rest
  .ok (x, ⟨rest₂, length_lt_trans h h₂⟩)

theorem length_lt_after_closing {input rest inner outer : Bytes} {b : UInt8}
    (h : skipGap input = b :: rest) (h₂ : inner.length ≤ rest.length)
    (h₃ : outer.length < inner.length) : outer.length < input.length :=
  length_lt_trans (length_lt_of_skipGap_le h h₂) h₃

/-- The end of a text after its value. -/
def readEnd (ending : Ending) (input : Bytes) : Except Fault Unit :=
  match skipGap input with
  | [] => ending.look []
  | _ :: _ => breach .trailingCharacters

end TermTape.Json

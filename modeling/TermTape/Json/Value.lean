import TermTape.Json.Shape

/-!
# JSON values

Any JSON value, read whole: its strings are texts, its numbers are in range, and its brackets are
nested no deeper than a limit. An object may stand for a value that it gives as a text: its only
member then has a key that is reserved for this, and the text is read as a value of its own.
-/
namespace TermTape.Json

variable [Rounding]

/-- A JSON value; the members of an object stand in the order of the text. -/
inductive Value where
  | null
  | truth (b : Bool)
  | number (n : Number)
  | text (s : String)
  | list (items : List Value)
  | object (members : List (String × Value))

/-- The key of the member that gives a value as a text. -/
def textKey : String := "$serde_json::private::RawValue"

/-- A value in at most `depth` brackets; `inner` reads the values that are given as texts. -/
def readValue (ending : Ending) (inner : Bytes → Except Fault Value) : (depth : Nat) → Reader Value
  | depth, input => do
    match h : skipGap input with
    | [] => ending.atEnd .endInValue
    | b :: rest =>
      if b == byte 'n' then
        let ⟨rest₂, h₂⟩ ← readName ending nullTail rest
        .ok (.null, ⟨rest₂, length_lt_of_skipGap_le h h₂⟩)
      else if b == byte 't' then
        let ⟨rest₂, h₂⟩ ← readName ending trueTail rest
        .ok (.truth true, ⟨rest₂, length_lt_of_skipGap_le h h₂⟩)
      else if b == byte 'f' then
        let ⟨rest₂, h₂⟩ ← readName ending falseTail rest
        .ok (.truth false, ⟨rest₂, length_lt_of_skipGap_le h h₂⟩)
      else if b == byte '-' then
        let (number, ⟨rest₂, h₂⟩) ← readNumber ending true rest
        .ok (.number number, ⟨rest₂, length_lt_of_skipGap_lt h h₂⟩)
      else if isDigit b then
        let (number, ⟨rest₂, h₂⟩) ← readNumber ending false (b :: rest)
        .ok (.number number, ⟨rest₂, length_lt_of_skipGap_cons h h₂⟩)
      else if b == byte '"' then
        let (text, ⟨rest₂, h₂⟩) ← readText ending rest
        .ok (.text text, ⟨rest₂, length_lt_of_skipGap_lt h h₂⟩)
      else if b == byte '[' then
        match depth with
        | 0 => breach .tooDeep
        | depth + 1 =>
          let (items, ⟨rest₂, h₂⟩) ← readItems ending (readValue ending inner depth) true [] rest
          let ⟨rest₃, h₃⟩ ← closeList ending rest₂
          .ok (.list items, ⟨rest₃, length_lt_after_closing h h₂ h₃⟩)
      else if b == byte '{' then
        match depth with
        | 0 => breach .tooDeep
        | depth + 1 =>
          let member (before : List (String × Value)) (key : String) :
              Reader (List (String × Value)) := fun start => do
            let (value, rest) ← memberValue ending (readValue ending inner depth) start
            .ok ((key, value) :: before, rest)
          match ← nextKey ending true rest with
          | none =>
            let ⟨rest₂, h₂⟩ ← closeObject ending rest
            .ok (.object [], ⟨rest₂, length_lt_of_skipGap_lt h h₂⟩)
          | some (key, ⟨start, h₁⟩) =>
            if key = textKey then
              let (text, ⟨rest₂, h₂⟩) ←
                memberValue ending (readNamedString ending "raw value") start
              let value ← inner (textBytes text)
              let ⟨rest₃, h₃⟩ ← closeObject ending rest₂
              .ok (value, ⟨rest₃, length_lt_of_skipGap_lt h
                (length_lt_trans h₁ (length_lt_trans h₂ h₃))⟩)
            else
              let (first, ⟨rest₂, h₂⟩) ← member [] key start
              let (members, ⟨rest₃, h₃⟩) ← readMembers ending member false first rest₂
              let ⟨rest₄, h₄⟩ ← closeObject ending rest₃
              .ok (.object members.reverse, ⟨rest₄, length_lt_of_skipGap_lt h
                (length_lt_trans h₁ (length_lt_trans h₂ (Nat.lt_of_lt_of_le h₄ h₃)))⟩)
      else breach .expectedValue

/-- The greatest nesting of a value that is read whole. -/
def deepest : Nat := 127

/-- The value of a text, in which at most so many texts stand inside one another. -/
def parseWithin : (texts : Nat) → Bytes → Except Fault Value
  | 0, _ => breach .tooDeep
  | texts + 1, input => do
    let (value, ⟨rest, _⟩) ← readValue .ends (parseWithin texts) deepest input
    readEnd .ends rest
    .ok value

/-- The value of a text. A text inside another is shorter than it, so their count has a bound. -/
def parse (input : Bytes) : Except Fault Value := parseWithin (input.length + 1) input

end TermTape.Json

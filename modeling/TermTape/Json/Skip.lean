import TermTape.Json.Text

/-!
# Skipped JSON values

A value that is passed over, or kept as it is written, is read by a machine with a stack of the
brackets that are open. The machine holds the value to the grammar alone: its strings may pair no
surrogates and be no UTF-8, its numbers may have any size, and it may be nested to any depth.
-/
namespace TermTape.Json

/-- The kind of an open bracket. -/
inductive Bracket where
  | list
  | object
  deriving DecidableEq, Repr

/-- The byte that closes a bracket. -/
def Bracket.closing : Bracket → UInt8
  | .list => byte ']'
  | .object => byte '}'

/-- The breach of a bracket that is not closed at the end of the text. -/
def Bracket.unclosed : Bracket → Malformed
  | .list => .endInList
  | .object => .endInObject

/-- The breach of a value that neither a comma nor the closing byte follows. -/
def Bracket.unseparated : Bracket → Malformed
  | .list => .expectedListEnd
  | .object => .expectedObjectEnd

/-- Where the machine stands. -/
inductive Place where
  | value
  | opened
  | after
  | key
  | colon
  | string (isKey : Bool)
  | escape (isKey : Bool)
  | hex (isKey : Bool) (count : Nat) (good : Bool)
  | name (tail : Bytes)
  | sign
  | zero
  | whole
  | point
  | fraction
  | exponent
  | exponentSign
  | exponentDigits
  deriving DecidableEq

/-- The machine: its place and the open brackets, the innermost first. -/
abbrev Standing := Place × List Bracket

/-- A byte where a value stands. -/
def valueStep (stack : List Bracket) (b : UInt8) : Except Fault Standing :=
  if isGap b then .ok (.value, stack)
  else if b == byte 'n' then .ok (.name nullTail, stack)
  else if b == byte 't' then .ok (.name trueTail, stack)
  else if b == byte 'f' then .ok (.name falseTail, stack)
  else if b == byte '-' then .ok (.sign, stack)
  else if b == byte '0' then .ok (.zero, stack)
  else if isDigit b then .ok (.whole, stack)
  else if b == byte '"' then .ok (.string false, stack)
  else if b == byte '[' then .ok (.opened, .list :: stack)
  else if b == byte '{' then .ok (.opened, .object :: stack)
  else breach .expectedValue

/-- A byte where a key stands. -/
def keyStep (stack : List Bracket) (b : UInt8) : Except Fault Standing :=
  if isGap b then .ok (.key, stack)
  else if b == byte '"' then .ok (.string true, stack)
  else breach .keyNotString

/-- A byte after an opening bracket. -/
def openedStep (stack : List Bracket) (b : UInt8) : Except Fault Standing :=
  match stack with
  | [] => valueStep [] b
  | bracket :: outer =>
    if isGap b then .ok (.opened, stack)
    else if b == bracket.closing then .ok (.after, outer)
    else match bracket with
      | .list => valueStep stack b
      | .object => keyStep stack b

/-- A byte after a value; outside every bracket it is not the machine's, which has ended. -/
def afterStep (stack : List Bracket) (b : UInt8) : Except Fault (Option Standing) :=
  match stack with
  | [] => .ok none
  | bracket :: outer =>
    if isGap b then .ok (some (.after, stack))
    else if b == byte ',' then
      .ok (some (match bracket with | .list => .value | .object => .key, stack))
    else if b == bracket.closing then .ok (some (.after, outer))
    else breach bracket.unseparated

/-- The place after a string. -/
def afterString (isKey : Bool) : Place := if isKey then .colon else .after

/-- One byte; nothing if the machine has ended before it. -/
def step (place : Place) (stack : List Bracket) (b : UInt8) : Except Fault (Option Standing) :=
  let go (next : Place) : Except Fault (Option Standing) := .ok (some (next, stack))
  match place with
  | .value => (valueStep stack b).map some
  | .opened => (openedStep stack b).map some
  | .after => afterStep stack b
  | .key => (keyStep stack b).map some
  | .colon =>
    if isGap b then go .colon
    else if b == byte ':' then go .value
    else breach .expectedColon
  | .string isKey =>
    if b == byte '"' then go (afterString isKey)
    else if b == byte '\\' then go (.escape isKey)
    else if b < 0x20 then breach .controlCharacter
    else go (.string isKey)
  | .escape isKey =>
    if b == byte 'u' then go (.hex isKey 0 true)
    else if (shortEscape? b).isSome then go (.string isKey)
    else breach .badEscape
  | .hex isKey count good =>
    let good := good && (hexValue? b).isSome
    if count < 3 then go (.hex isKey (count + 1) good)
    else if good then go (.string isKey)
    else breach .badEscape
  | .name tail =>
    match tail with
    | [] => afterStep stack b
    | [last] => if b == last then go .after else breach .expectedName
    | wanted :: more => if b == wanted then go (.name more) else breach .expectedName
  | .sign =>
    if b == byte '0' then go .zero
    else if isDigit b then go .whole
    else breach .badNumber
  | .zero =>
    if isDigit b then breach .badNumber
    else if b == byte '.' then go .point
    else if b == byte 'e' || b == byte 'E' then go .exponent
    else afterStep stack b
  | .whole =>
    if isDigit b then go .whole
    else if b == byte '.' then go .point
    else if b == byte 'e' || b == byte 'E' then go .exponent
    else afterStep stack b
  | .point => if isDigit b then go .fraction else breach .badNumber
  | .fraction =>
    if isDigit b then go .fraction
    else if b == byte 'e' || b == byte 'E' then go .exponent
    else afterStep stack b
  | .exponent =>
    if b == byte '+' || b == byte '-' then go .exponentSign
    else if isDigit b then go .exponentDigits
    else breach .badNumber
  | .exponentSign => if isDigit b then go .exponentDigits else breach .badNumber
  | .exponentDigits => if isDigit b then go .exponentDigits else afterStep stack b

/-- The end of the text after a whole value. -/
def endAfter (ending : Ending) : List Bracket → Except Fault Unit
  | [] => .ok ()
  | bracket :: _ => ending.atEnd bracket.unclosed

/-- The end of the text in a place. A number ends with the text, once the source has said that it
ends. -/
def endStep (ending : Ending) (place : Place) (stack : List Bracket) : Except Fault Unit :=
  match place with
  | .value => ending.atEnd .endInValue
  | .opened | .after => endAfter ending stack
  | .key | .colon => ending.atEnd .endInObject
  | .string _ | .escape _ | .hex .. => ending.atEnd .endInString
  | .name _ => ending.atEnd .endInValue
  | .sign | .point | .exponent | .exponentSign => ending.atEnd .badNumber
  | .zero | .whole | .fraction | .exponentDigits => do
    ending.look []
    endAfter ending stack

/-- The bytes of a value that the machine has begun, of which some came before in reverse order, and
the bytes after it. -/
def run (ending : Ending) : Place → List Bracket → (before input : Bytes) →
    Except Fault (Bytes × Bytes)
  | .after, [], before, input => .ok (before.reverse, input)
  | place, stack, before, [] => do
    endStep ending place stack
    .ok (before.reverse, [])
  | place, stack, before, b :: rest =>
    match step place stack b with
    | .error fault => .error fault
    | .ok none => .ok (before.reverse, b :: rest)
    | .ok (some (place, stack)) => run ending place stack (b :: before) rest

theorem length_le_of_run {ending : Ending} {place : Place} {stack : List Bracket}
    {before input value rest : Bytes}
    (h : run ending place stack before input = .ok (value, rest)) :
    rest.length ≤ input.length := by
  fun_induction run ending place stack before input with
  | case1 => simp_all
  | case2 place stack before =>
    cases ended : endStep ending place stack <;> simp_all [bind, Except.bind]
  | case3 => simp at h
  | case4 => simp_all
  | case5 place stack before b more _ place' stack' _ ih =>
    have := ih h
    simp
    omega

/-- A value as it is written, from its first byte. -/
def readWritten (ending : Ending) : (input : Bytes) → Except Fault (Bytes × Shorter input)
  | [] => ending.atEnd .endInValue
  | b :: rest =>
    match valueStep [] b with
    | .error fault => .error fault
    | .ok (place, stack) =>
      match h : run ending place stack [b] rest with
      | .error fault => .error fault
      | .ok (value, left) => .ok (value, ⟨left, by have := length_le_of_run h; simp; omega⟩)

/-- Pass over a value. -/
def skipValue (ending : Ending) (input : Bytes) : Except Fault (Shorter input) :=
  (readWritten ending input).map Prod.snd

/-- A value as it is written, without the blanks around it; it has to be UTF-8. -/
def readRaw (ending : Ending) (input : Bytes) : Except Fault (Bytes × Shorter input) := do
  let (raw, ⟨rest, h⟩) ← readWritten ending (skipGap input)
  if (Utf8.decode? raw).isSome then
    .ok (raw, ⟨rest, Nat.lt_of_lt_of_le h (length_skipGap_le input)⟩)
  else breach .badCharacter

end TermTape.Json

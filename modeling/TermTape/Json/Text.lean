import TermTape.Json.Source

/-!
# JSON strings

A string that is read for its text must be UTF-8 and pair its surrogate escapes (`readText`). The
input of each reader starts after the opening quote.
-/
namespace TermTape.Json

/-- The byte of a one-letter escape. -/
def shortEscape? (b : UInt8) : Option UInt8 :=
  if b == byte '"' || b == byte '\\' || b == byte '/' then some b
  else if b == byte 'b' then some 0x08
  else if b == byte 'f' then some 0x0c
  else if b == byte 'n' then some 0x0a
  else if b == byte 'r' then some 0x0d
  else if b == byte 't' then some 0x09
  else none

/-- A high surrogate, which begins a pair. -/
def isHighUnit (unit : Nat) : Bool := 0xd800 ≤ unit && unit ≤ 0xdbff

/-- A low surrogate, which ends a pair. -/
def isLowUnit (unit : Nat) : Bool := 0xdc00 ≤ unit && unit ≤ 0xdfff

/-- The character of a pair of surrogates. -/
def pairChar (high low : Nat) : Char :=
  Char.ofNat (0x10000 + (high - 0xd800) * 0x400 + (low - 0xdc00))

/-- The four digits of an escape. -/
def readUnit (ending : Ending) : (input : Bytes) → Except Fault (Nat × Shorter input)
  | a :: b :: c :: d :: rest =>
    match hexUnit? a b c d with
    | some unit => .ok (unit, ⟨rest, by simp; omega⟩)
    | none => breach .badEscape
  | _ => ending.atEnd .endInString

/-- The second escape of a pair. -/
def readLowUnit (ending : Ending) : (input : Bytes) → Except Fault (Nat × Shorter input)
  | [] => ending.atEnd .endInString
  | backslash :: input =>
    if backslash != byte '\\' then breach .surrogateCut
    else match input with
      | [] => ending.atEnd .endInString
      | letter :: input =>
        if letter != byte 'u' then breach .surrogateCut
        else do
          let (unit, ⟨rest, h⟩) ← readUnit ending input
          if isLowUnit unit then .ok (unit, ⟨rest, by simp; omega⟩)
          else breach .loneSurrogate

/-- The character of an escape by code unit, after its letter. -/
def readCodeEscape (ending : Ending) (input : Bytes) : Except Fault (Char × Shorter input) := do
  let (unit, ⟨rest, h⟩) ← readUnit ending input
  if isLowUnit unit then breach .loneSurrogate
  else if isHighUnit unit then
    let (low, ⟨rest₂, h₂⟩) ← readLowUnit ending rest
    .ok (pairChar unit low, ⟨rest₂, length_lt_trans h h₂⟩)
  else .ok (Char.ofNat unit, ⟨rest, h⟩)

/-- The bytes of an escape after its backslash. -/
def readEscape (ending : Ending) : (input : Bytes) → Except Fault (Bytes × Shorter input)
  | [] => ending.atEnd .endInString
  | letter :: input =>
    if letter == byte 'u' then do
      let (c, ⟨rest, h⟩) ← readCodeEscape ending input
      .ok (Utf8.encodeChar c, ⟨rest, by simp; omega⟩)
    else match shortEscape? letter with
      | some b => .ok ([b], ⟨input, by simp⟩)
      | none => breach .badEscape

/-- The bytes of a string up to its closing quote, its escapes resolved, after the bytes before them
in reverse order; then the rest of the input. -/
def readStringBytes (ending : Ending) (before : Bytes) (input : Bytes) :
    Except Fault (Bytes × Bytes) :=
  match input with
  | [] => ending.atEnd .endInString
  | b :: rest =>
    if b == byte '"' then .ok (before.reverse, rest)
    else if b == byte '\\' then
      match readEscape ending rest with
      | .error fault => .error fault
      | .ok (bytes, ⟨rest₂, _⟩) => readStringBytes ending (bytes.reverse ++ before) rest₂
    else if b < 0x20 then breach .controlCharacter
    else readStringBytes ending (b :: before) rest
termination_by input.length

theorem length_lt_of_readStringBytes {ending : Ending} {before input bytes rest : Bytes}
    (h : readStringBytes ending before input = .ok (bytes, rest)) :
    rest.length < input.length := by
  fun_induction readStringBytes ending before input with
  | case1 => cases ending <;> simp [Ending.atEnd, breach] at h
  | case2 => simp_all
  | case3 => simp at h
  | case4 before b more _ _ bytes' rest₂ shorter _ ih =>
    have := ih h
    simp
    omega
  | case5 => simp [breach] at h
  | case6 before b more _ _ _ ih =>
    have := ih h
    simp
    omega

/-- The text of a string. -/
def readText (ending : Ending) (input : Bytes) : Except Fault (String × Shorter input) :=
  match h : readStringBytes ending [] input with
  | .error fault => .error fault
  | .ok (bytes, rest) =>
    match Utf8.text? bytes with
    | some text => .ok (text, ⟨rest, length_lt_of_readStringBytes h⟩)
    | none => breach .badCharacter

end TermTape.Json

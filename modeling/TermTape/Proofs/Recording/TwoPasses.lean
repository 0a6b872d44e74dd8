import TermTape.Proofs.Recording.FrameText

/-!
# Frame texts in two passes

What stands between the quotes of a frame text is a list of tokens: bytes that stand for themselves
or have a short escape, and code units (`Splits`). A second pass puts surrogates together and turns
what is left alone into bytes (`resolve`). Decoding looks ahead from a high surrogate, and may have
to read what it finds there again; it comes to the same as the two passes (`decode_two_passes`).
-/
namespace TermTape.FrameText

open Json (byte shortEscape? hexUnit? isHighUnit isLowUnit pairChar StringBody)

/-! ## The two passes -/

/-- A part of a frame text: a byte, or a code unit. -/
inductive Token where
  | byte (b : UInt8)
  | unit (unit : Nat)
  deriving DecidableEq

/-- The bytes that have an escape of one letter, by their letters. -/
def shortEscapes : List (UInt8 × UInt8) :=
  [(byte '"', byte '"'), (byte '\\', byte '\\'), (byte '/', byte '/'), (byte 'b', 0x08),
   (byte 'f', 0x0c), (byte 'n', 0x0a), (byte 'r', 0x0d), (byte 't', 0x09)]

/-- Bytes are tokens one after another: any byte but the backslash, escapes of one letter, and
escapes of a code unit by four hexadecimal digits (`hexUnit?_eq_some`). -/
inductive Splits : Bytes → List Token → Prop where
  | nil : Splits [] []
  | plain {b : UInt8} {rest : Bytes} {tokens : List Token} (other : b ≠ byte '\\')
      (more : Splits rest tokens) : Splits (b :: rest) (.byte b :: tokens)
  | short {letter b : UInt8} {rest : Bytes} {tokens : List Token}
      (listed : (letter, b) ∈ shortEscapes) (more : Splits rest tokens) :
      Splits (byte '\\' :: letter :: rest) (.byte b :: tokens)
  | unit {a b c d : UInt8} {unit : Nat} {rest : Bytes} {tokens : List Token}
      (digits : hexUnit? a b c d = some unit) (more : Splits rest tokens) :
      Splits (byte '\\' :: byte 'u' :: a :: b :: c :: d :: rest) (.unit unit :: tokens)

/-- The bytes of a code unit that is no part of a pair: those of its character, unless it is a
surrogate; a low one may stand for a stray byte, and any other is the replacement character. -/
def single (unit : Nat) : Bytes :=
  if unit < 0xd800 ∨ 0xdfff < unit then Utf8.encodeChar (Char.ofNat unit)
  else if 0xdc80 ≤ unit ∧ unit ≤ 0xdcff then [UInt8.ofNat (unit - 0xdc00)]
  else Utf8.encodeChar '\ufffd'

/-- The bytes of tokens. A high surrogate and a low one right after it are the character of the
pair, and any other unit stands alone. -/
def resolve : List Token → Bytes
  | [] => []
  | .byte b :: rest => b :: resolve rest
  | .unit unit :: .unit low :: rest =>
    if isHighUnit unit && isLowUnit low then Utf8.encodeChar (pairChar unit low) ++ resolve rest
    else single unit ++ resolve (.unit low :: rest)
  | .unit unit :: rest => single unit ++ resolve rest

variable {before rest : Bytes} {a b c d : UInt8} {unit : Nat} {tokens : List Token}

private theorem resolve_pair {low : Nat} (high : isHighUnit unit = true)
    (isLow : isLowUnit low = true) :
    resolve (.unit unit :: .unit low :: tokens) =
      Utf8.encodeChar (pairChar unit low) ++ resolve tokens := by
  simp [resolve, high, isLow]

/-- Tokens begin with a low surrogate. -/
def StartsLow (tokens : List Token) : Prop :=
  ∃ low rest, tokens = .unit low :: rest ∧ isLowUnit low = true

private theorem resolve_alone (alone : isHighUnit unit = true → ¬ StartsLow tokens) :
    resolve (.unit unit :: tokens) = single unit ++ resolve tokens := by
  rcases tokens with _ | ⟨b | low, more⟩
  · rfl
  · rfl
  · have apart : (isHighUnit unit && isLowUnit low) = false := by
      rw [Bool.and_eq_false_imp]
      intro high
      rw [Bool.eq_false_iff]
      exact fun isLow => alone high ⟨low, more, rfl, isLow⟩
    rw [resolve, apart]
    rfl

private theorem loneUnit_eq_single (unit : Nat) : loneUnit unit = single unit := by
  unfold loneUnit single
  by_cases stray : 0xdc80 ≤ unit ∧ unit ≤ 0xdcff
  · have surrogate : ¬ (unit < 0xd800 ∨ 0xdfff < unit) := by omega
    rw [if_pos stray, if_neg surrogate, if_pos stray]
    rfl
  · have partner : (isHighUnit unit || isLowUnit unit) = true ↔ ¬ (unit < 0xd800 ∨ 0xdfff < unit) := by
      simp [isHighUnit, isLowUnit]
      omega
    rw [if_neg stray]
    simp only [partner, stray, if_false, ite_not]
    rfl

private theorem mem_shortEscapes {letter b : UInt8} :
    (letter, b) ∈ shortEscapes ↔ shortEscape? letter = some b := by
  constructor
  · intro listed
    simp only [shortEscapes, List.mem_cons, Prod.mk.injEq, List.not_mem_nil, or_false] at listed
    rcases listed with h | h | h | h | h | h | h | h <;> obtain ⟨rfl, rfl⟩ := h <;> decide
  · intro found
    unfold shortEscape? at found
    split at found
    · rename_i itself
      obtain rfl := Option.some.inj found
      rcases (by simpa using itself : (letter = byte '"' ∨ letter = byte '\\') ∨ letter = byte '/') with
        (rfl | rfl) | rfl <;> decide
    · repeat' split at found
      all_goals simp_all [shortEscapes]

/-! ## Decoding is the two passes -/

/-- A high surrogate that no low one follows stands alone. -/
theorem decodeBody_lone (digits : hexUnit? a b c d = some unit) (high : isHighUnit unit = true)
    (more : Splits rest tokens) (alone : ¬ StartsLow tokens) :
    decodeBody before (byte '\\' :: byte 'u' :: a :: b :: c :: d :: rest) =
      decodeBody ((loneUnit unit).reverse ++ before) rest := by
  cases more with
  | nil => exact decodeBody_alone digits high nofun
  | plain other =>
    refine decodeBody_alone digits high fun tail same => ?_
    exact other (List.cons.inj same).1
  | short listed =>
    refine decodeBody_alone digits high fun tail same => ?_
    obtain ⟨-, same⟩ := List.cons.inj same
    obtain ⟨rfl, -⟩ := List.cons.inj same
    cases mem_shortEscapes.mp listed
  | unit digits₂ =>
    refine decodeBody_unpaired digits digits₂ high ?_
    rw [Bool.eq_false_iff]
    exact fun isLow => alone ⟨_, _, rfl, isLow⟩

/-- Bytes that are tokens are decoded to what the tokens stand for. -/
theorem decodeBody_of_splits {input : Bytes} {tokens : List Token} (splits : Splits input tokens)
    (before : Bytes) : decodeBody before input = .ok (before.reverse ++ resolve tokens) := by
  cases splits with
  | nil => simp [decodeBody, resolve]
  | plain other more =>
    rw [decodeBody_plain other, decodeBody_of_splits more]
    simp [resolve]
  | short listed more =>
    rw [decodeBody_short (mem_shortEscapes.mp listed), decodeBody_of_splits more]
    simp [resolve]
  | @unit a b c d unit rest tokens digits more =>
    by_cases high : isHighUnit unit = true
    · by_cases pair : StartsLow tokens
      · obtain ⟨low, others, rfl, isLow⟩ := pair
        cases more with
        | unit digits₂ more =>
          rw [decodeBody_pair before _ digits digits₂ high isLow, decodeBody_of_splits more,
            resolve_pair high isLow]
          simp
      · rw [decodeBody_lone digits high more pair, decodeBody_of_splits more,
          loneUnit_eq_single, resolve_alone fun _ => pair]
        simp
    · rw [decodeBody_unit digits (by simpa using high), decodeBody_of_splits more,
        loneUnit_eq_single, resolve_alone fun both => absurd both high]
      simp
termination_by input.length

/-- Bytes that are decoded are tokens. -/
theorem splits_of_decodeBody {before input data : Bytes} (read : decodeBody before input = .ok data) :
    ∃ tokens, Splits input tokens := by
  fun_induction decodeBody before input with
  | case1 => exact ⟨[], .nil⟩
  -- a pair of code units
  | case5 before a b c d unit digits high a₂ b₂ c₂ d₂ rest low digits₂ isLow ih =>
    obtain ⟨tokens, more⟩ := ih read
    exact ⟨_, .unit digits (.unit digits₂ more)⟩
  -- a code unit alone
  | case6 before a b c d unit digits high a₂ b₂ c₂ d₂ rest other digits₂ notLow ih =>
    obtain ⟨tokens, more⟩ := ih read
    exact ⟨_, .unit digits more⟩
  | case8 before a b c d unit digits high rest noUnit noEscape ih =>
    obtain ⟨tokens, more⟩ := ih read
    exact ⟨_, .unit digits more⟩
  | case9 before a b c d rest unit digits notHigh ih =>
    obtain ⟨tokens, more⟩ := ih read
    exact ⟨_, .unit digits more⟩
  -- an escape of one letter
  | case11 before letter rest noDigits noUnit b short ih =>
    obtain ⟨tokens, more⟩ := ih read
    exact ⟨_, .short (mem_shortEscapes.mpr short) more⟩
  -- any other byte
  | case13 before b rest notLast noDigits noUnit noEscape ih =>
    obtain ⟨tokens, more⟩ := ih read
    refine ⟨_, .plain ?_ more⟩
    rintro rfl
    cases rest with
    | nil => exact notLast rfl rfl
    | cons letter rest => exact noEscape letter rest rfl rfl
  | _ => cases read

theorem between?_eq_some {literal inner : Bytes} :
    between? literal = some inner ↔ literal = Json.quoted inner := by
  constructor
  · intro found
    unfold between? at found
    split at found
    · rename_i rest
      split at found
      · rename_i last
        obtain rfl := Option.some.inj found
        obtain ⟨front, rfl⟩ := List.getLast?_eq_some_iff.mp last
        rw [List.dropLast_concat]
        rfl
      · cases found
    · cases found
  · rintro rfl
    change (if (inner ++ [(0x22 : UInt8)]).getLast? = some 0x22 then _ else _) = _
    simp

theorem decode_quoted (inner : Bytes) : decode (Json.quoted inner) = decodeBody [] inner := by
  rw [decode, between?_eq_some.mpr rfl]

/-- The body of a string of the grammar is tokens. -/
theorem splits_of_stringBody {inner : Bytes} (body : StringBody inner) :
    ∃ tokens, Splits inner tokens := by
  induction body with
  | nil => exact ⟨[], .nil⟩
  | plain h _ ih =>
    obtain ⟨tokens, more⟩ := ih
    exact ⟨_, .plain h.ne_backslash more⟩
  | short h _ ih =>
    obtain ⟨tokens, more⟩ := ih
    obtain ⟨b, short⟩ := Option.isSome_iff_exists.mp h
    exact ⟨_, .short (mem_shortEscapes.mpr short) more⟩
  | unit h _ ih =>
    obtain ⟨tokens, more⟩ := ih
    obtain ⟨unit, digits⟩ := Option.isSome_iff_exists.mp h
    exact ⟨_, .unit digits more⟩

/-- A text is decoded exactly when it is tokens between two quotes, and then to what a second pass
makes of the tokens. So every string of the grammar is decoded, also one with lone surrogates. -/
theorem decode_two_passes (literal : Bytes) :
    (∀ data, decode literal = .ok data ↔
      ∃ inner tokens, literal = Json.quoted inner ∧ Splits inner tokens ∧ resolve tokens = data) ∧
    ∀ inner, StringBody inner → ∃ data, decode (Json.quoted inner) = .ok data := by
  refine ⟨fun data => ⟨?_, ?_⟩, ?_⟩
  · intro read
    rw [decode] at read
    split at read
    · rename_i inner between
      obtain ⟨tokens, splits⟩ := splits_of_decodeBody read
      rw [decodeBody_of_splits splits] at read
      exact ⟨inner, tokens, between?_eq_some.mp between, splits, Except.ok.inj read⟩
    · cases read
  · rintro ⟨inner, tokens, rfl, splits, rfl⟩
    rw [decode_quoted, decodeBody_of_splits splits]
    rfl
  · intro inner body
    obtain ⟨tokens, splits⟩ := splits_of_stringBody body
    exact ⟨_, by rw [decode_quoted, decodeBody_of_splits splits]⟩

/-- A high surrogate alone, a pair, and a stray byte. -/
example : decode (textBytes "\"\\ud83d\\ud83d\\ude00\\udcff\"") =
    .ok (Utf8.encodeChar '\ufffd' ++ [0xf0, 0x9f, 0x98, 0x80, 0xff]) := by
  decide +kernel

end TermTape.FrameText

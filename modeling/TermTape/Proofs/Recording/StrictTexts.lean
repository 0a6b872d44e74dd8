import TermTape.Json.Shape
import TermTape.Proofs.Recording.TwoPasses

/-!
# Frame texts and texts

A string that is read for its text pairs its surrogates and is UTF-8, which a frame text need not.
What such a reader takes for a text, decoding takes for the bytes of that text
(`readString_literal`). A frame text is read in this way exactly when its output is UTF-8, and then
as its output, so no part of a text is written as stray bytes (`readers_agree`).
-/
namespace TermTape

namespace Json

open FrameText (decodeBody decodeBody_plain decodeBody_short decodeBody_unit decodeBody_pair)
open FrameText (codeUnits codeUnits_cases unitEscape unitEscape_eq not_surrogate encodeChar)
open FrameText (encodeChar_cases body encode textBytes_encode)

variable {ending : Ending} {before input bytes rest : Bytes}

/-! ## Escapes -/

private theorem readUnit_from {unit : Nat} (read : Gives (readUnit ending input) unit rest) :
    ∃ a b c d, input = a :: b :: c :: d :: rest ∧ hexUnit? a b c d = some unit := by
  obtain ⟨h, read⟩ := read
  unfold readUnit at read
  split at read
  · rename_i a b c d more
    split at read
    · rename_i found digits
      cases read
      exact ⟨a, b, c, d, rfl, digits⟩
    · cases read
  · cases ending <;> cases read

private theorem readLowUnit_from {low : Nat} (read : Gives (readLowUnit ending input) low rest) :
    ∃ a b c d, input = byte '\\' :: byte 'u' :: a :: b :: c :: d :: rest ∧
      hexUnit? a b c d = some low ∧ isLowUnit low = true := by
  obtain ⟨h, read⟩ := read
  unfold readLowUnit at read
  split at read
  · cases ending <;> cases read
  rename_i backslash more
  split at read
  · cases read
  rename_i first
  split at read
  · cases ending <;> cases read
  rename_i letter digits
  split at read
  · cases read
  rename_i second
  obtain ⟨⟨unit, left, shorter⟩, unitRead, read⟩ := ok_of_bind read
  dsimp only at read
  split at read
  · rename_i isLow
    cases read
    obtain ⟨a, b, c, d, rfl, value⟩ := readUnit_from ⟨shorter, unitRead⟩
    obtain rfl : backslash = byte '\\' := by simpa using first
    obtain rfl : letter = byte 'u' := by simpa using second
    exact ⟨a, b, c, d, rfl, value, isLow⟩
  · cases read

private theorem loneUnit_plain {unit : Nat} (high : isHighUnit unit = false)
    (low : isLowUnit unit = false) :
    FrameText.loneUnit unit = Utf8.encodeChar (Char.ofNat unit) := by
  have stray : ¬ (0xdc80 ≤ unit ∧ unit ≤ 0xdcff) := by
    simp [isLowUnit] at low
    omega
  simp [FrameText.loneUnit, stray, high, low]

/-- Letters of an escape after its backslash stand for bytes: they are an escape of the grammar, or
the escapes of a pair, and are decoded as the bytes. -/
def Escapes (letters bytes : Bytes) : Prop :=
  StringBody (byte '\\' :: letters) ∧
    ∀ before tail, decodeBody before (byte '\\' :: (letters ++ tail)) =
      decodeBody (bytes.reverse ++ before) tail


private theorem escapes_short {letter b : UInt8} (short : shortEscape? letter = some b) :
    Escapes [letter] [b] :=
  ⟨.short (by rw [short]; rfl) .nil, fun _ _ => decodeBody_short short⟩

private theorem escapes_unit {a b c d : UInt8} {unit : Nat} (digits : hexUnit? a b c d = some unit)
    (high : isHighUnit unit = false) (low : isLowUnit unit = false) :
    Escapes [byte 'u', a, b, c, d] (Utf8.encodeChar (Char.ofNat unit)) := by
  refine ⟨.unit (by rw [digits]; rfl) .nil, fun before tail => ?_⟩
  rw [← loneUnit_plain high low]
  exact decodeBody_unit digits high

private theorem escapes_pair {a b c d a₂ b₂ c₂ d₂ : UInt8} {unit low : Nat}
    (digits : hexUnit? a b c d = some unit) (digits₂ : hexUnit? a₂ b₂ c₂ d₂ = some low)
    (high : isHighUnit unit = true) (isLow : isLowUnit low = true) :
    Escapes [byte 'u', a, b, c, d, byte '\\', byte 'u', a₂, b₂, c₂, d₂]
      (Utf8.encodeChar (pairChar unit low)) :=
  ⟨.unit (by rw [digits]; rfl) (.unit (by rw [digits₂]; rfl) .nil),
    fun before tail => decodeBody_pair before tail digits digits₂ high isLow⟩

private theorem readCodeEscape_from {c : Char} (read : Gives (readCodeEscape ending input) c rest) :
    ∃ letters, input = letters ++ rest ∧ Escapes (byte 'u' :: letters) (Utf8.encodeChar c) := by
  obtain ⟨h, read⟩ := read
  obtain ⟨⟨unit, left, shorter⟩, unitRead, read⟩ := ok_of_bind read
  obtain ⟨a, b, c', d, rfl, digits⟩ := readUnit_from ⟨shorter, unitRead⟩
  dsimp only at read
  split at read
  · cases read
  rename_i notLow
  have low : isLowUnit unit = false := by simpa using notLow
  split at read
  · rename_i high
    obtain ⟨⟨second, left₂, shorter₂⟩, lowRead, read⟩ := ok_of_bind read
    obtain ⟨rfl, rfl⟩ : pairChar unit second = c ∧ left₂ = rest := by simpa using read
    obtain ⟨a₂, b₂, c₂, d₂, rfl, digits₂, isLow⟩ := readLowUnit_from ⟨shorter₂, lowRead⟩
    exact ⟨[a, b, c', d, byte '\\', byte 'u', a₂, b₂, c₂, d₂], rfl,
      escapes_pair digits digits₂ high isLow⟩
  · rename_i notHigh
    cases read
    exact ⟨[a, b, c', d], rfl, escapes_unit digits (by simpa using notHigh) low⟩

private theorem readEscape_from (read : Gives (readEscape ending input) bytes rest) :
    ∃ letters, input = letters ++ rest ∧ Escapes letters bytes := by
  obtain ⟨h, read⟩ := read
  unfold readEscape at read
  split at read
  · cases ending <;> cases read
  rename_i letter more
  split at read
  · rename_i isUnit
    obtain ⟨⟨c, left, shorter⟩, charRead, read⟩ := ok_of_bind read
    cases read
    obtain rfl : letter = byte 'u' := by simpa using isUnit
    obtain ⟨letters, rfl, escapes⟩ := readCodeEscape_from ⟨shorter, charRead⟩
    exact ⟨byte 'u' :: letters, rfl, escapes⟩
  · split at read
    · rename_i b short
      cases read
      exact ⟨[letter], rfl, escapes_short short⟩
    · cases read

/-! ## Whole strings -/

private theorem readStringBytes_from
    (read : readStringBytes ending before input = .ok (bytes, rest)) :
    ∃ inner, input = inner ++ byte '"' :: rest ∧ StringBody inner ∧
      decodeBody before inner = .ok bytes := by
  fun_induction readStringBytes ending before input with
  | case1 => cases ending <;> cases read
  | case2 before b more quote =>
    cases read
    obtain rfl : b = byte '"' := by simpa using quote
    exact ⟨[], rfl, .nil, rfl⟩
  | case3 => cases read
  | case4 before b more _ backslash bytes' rest₂ shorter escape ih =>
    obtain rfl : b = byte '\\' := by simpa using backslash
    obtain ⟨letters, rfl, body, decoded⟩ := readEscape_from ⟨shorter, escape⟩
    obtain ⟨inner, rfl, others, value⟩ := ih read
    refine ⟨byte '\\' :: (letters ++ inner), by simp, body.append others, ?_⟩
    rw [decoded, value]
  | case5 => cases read
  | case6 before b more notQuote notBackslash notControl ih =>
    obtain ⟨inner, rfl, others, value⟩ := ih read
    have backslash : b ≠ byte '\\' := by simpa using notBackslash
    have plain : PlainByte b := by
      have quote : b ≠ byte '"' := by simpa using notQuote
      rw [Ne, ← UInt8.toNat_inj] at quote backslash
      refine ⟨?_, quote, backslash⟩
      exact Nat.not_lt.mp fun control => notControl (UInt8.lt_iff_toNat_lt.mpr control)
    exact ⟨b :: inner, rfl, .plain plain others, by rw [decodeBody_plain plain.ne_backslash, value]⟩

private theorem readText_from {text : String} (read : Gives (readText ending input) text rest) :
    ∃ inner, input = inner ++ byte '"' :: rest ∧ StringBody inner ∧
      decodeBody [] inner = .ok (textBytes text) := by
  obtain ⟨h, read⟩ := read
  unfold readText at read
  split at read
  · cases read
  rename_i bytes left whole
  split at read
  · rename_i found characters
    cases read
    rw [Utf8.textBytes_of_text? characters]
    exact readStringBytes_from whole
  · cases read

private theorem exists_gap (input : Bytes) : ∃ gap, Blank gap ∧ input = gap ++ skipGap input :=
  ⟨input.takeWhile isGap, List.all_eq_true.mp List.all_takeWhile,
    List.takeWhile_append_dropWhile.symm⟩

/-- A text is read from a string of the grammar, perhaps after blanks, that is decoded as the bytes
of the text. -/
theorem readString_from {text : String} (read : Gives (readString ending input) text rest) :
    ∃ gap inner, Blank gap ∧ input = gap ++ (Json.quoted inner ++ rest) ∧ StringBody inner ∧
      FrameText.decode (Json.quoted inner) = .ok (textBytes text) := by
  obtain ⟨h, read⟩ := read
  unfold readString readNamedString at read
  split at read
  · cases ending <;> cases read
  rename_i b more next
  split at read
  · rename_i quote
    obtain ⟨⟨found, left, shorter⟩, textRead, read⟩ := ok_of_bind read
    cases read
    obtain rfl : b = byte '"' := by simpa using quote
    obtain ⟨inner, rfl, body, decoded⟩ := readText_from ⟨shorter, textRead⟩
    obtain ⟨gap, blank, split⟩ := exists_gap input
    refine ⟨gap, inner, blank, ?_, body, by rw [FrameText.decode_quoted, decoded]⟩
    rw [split, next, quoted_append]
  · exact absurd read refuseKind_ne_ok

/-! ## Frame texts of texts -/

private theorem readStringBytes_codeUnits (before : Bytes) (c : Char) (rest : Bytes) :
    readStringBytes ending before (Utf8.encode ((codeUnits c).flatMap unitEscape) ++ rest) =
      readStringBytes ending ((Utf8.encodeChar c).reverse ++ before) rest := by
  rcases codeUnits_cases c with ⟨small, units⟩ | ⟨unit, low, units, small, small₂, high, isLow, char⟩
  · obtain ⟨a, b, d, e, bytes, digits⟩ := encode_unitLetters small
    obtain ⟨notHigh, notLow⟩ := not_surrogate c
    have one : Gives (readEscape ending (byte 'u' :: a :: b :: d :: e :: rest)) _ rest :=
      readEscape_unit rest digits notLow notHigh
    rw [Char.ofNat_toNat] at one
    rw [units, List.flatMap_singleton, unitEscape_eq small, bytes]
    exact readStringBytes_escape one
  · obtain ⟨a, b, d, e, bytes, digits⟩ := encode_unitLetters small
    obtain ⟨a₂, b₂, d₂, e₂, bytes₂, digits₂⟩ := encode_unitLetters small₂
    have pair : Gives (readEscape ending (byte 'u' :: a :: b :: d :: e :: byte '\\' :: byte 'u' ::
        a₂ :: b₂ :: d₂ :: e₂ :: rest)) _ rest :=
      readEscape_pair rest digits digits₂ high isLow
    rw [char] at pair
    rw [units, List.flatMap_cons, List.flatMap_singleton, unitEscape_eq small, unitEscape_eq small₂,
      Utf8.encode_append, bytes, bytes₂]
    exact readStringBytes_escape pair

/-- A character of a frame text is read as the character. -/
theorem readStringBytes_encodeChar (before : Bytes) (c : Char) (rest : Bytes) :
    readStringBytes ending before (Utf8.encode (encodeChar c) ++ rest) =
      readStringBytes ending ((Utf8.encodeChar c).reverse ++ before) rest := by
  rcases encodeChar_cases c with ⟨letter, short, ascii, low, found⟩ | units | ⟨plain, char⟩
  · have bytes : Utf8.encode (encodeChar c) = [byte '\\', byte letter] := by
      simp [short, Utf8.encode, Utf8.encodeChar_one, ascii, byte]
    rw [bytes, Utf8.encodeChar_one low]
    exact readStringBytes_escape (readEscape_short rest found)
  · rw [units, readStringBytes_codeUnits]
  · rw [plain, Utf8.encode, List.flatMap_singleton]
    exact readStringBytes_plain ending before (plainByte_of_plainChar char) rest

private theorem readStringBytes_chars (text : List Char) (before rest : Bytes) :
    readStringBytes ending before (Utf8.encode (text.flatMap encodeChar) ++ byte '"' :: rest) =
      .ok (before.reverse ++ Utf8.encode text, rest) := by
  induction text generalizing before with
  | nil => simp [Utf8.encode, readStringBytes_quote]
  | cons c more ih =>
    rw [List.flatMap_cons, Utf8.encode_append, List.append_assoc, readStringBytes_encodeChar, ih,
      Utf8.encode_cons]
    simp

private theorem body_textBytes (text : String) :
    body (textBytes text) = text.toList.flatMap encodeChar := by
  rw [body, textBytes, Utf8.pieces_encode, List.flatMap_map]
  rfl

/-- The frame text of a text is read as the text. -/
theorem readString_encode (text : String) (rest : Bytes) :
    Gives (readString ending (textBytes (encode (textBytes text)) ++ rest)) text rest := by
  have bytes : readStringBytes ending [] _ = _ := readStringBytes_chars text.toList [] rest
  rw [← body_textBytes] at bytes
  have read : Gives (readText ending (Utf8.encode (body (textBytes text)) ++ byte '"' :: rest))
      text rest := readText_gives bytes
  rw [textBytes_encode, quoted_append]
  exact readString_gives (skipGap_cons rfl _) read

theorem Gives.unique {α : Type} {p : Bytes → Prop} {left : Bytes} {x y : α}
    {result : Except Fault (α × { rest : Bytes // p rest })} (first : Gives result x rest)
    (second : Gives result y left) : x = y ∧ rest = left := by
  obtain ⟨h, rfl⟩ := first
  obtain ⟨h₂, same⟩ := second
  cases same
  exact ⟨rfl, rfl⟩

/-- A text begins with at most one string of the grammar. -/
theorem quoted_inj {inner other left : Bytes} (body : StringBody inner) (body₂ : StringBody other)
    (same : quoted inner ++ rest = quoted other ++ left) : inner = other := by
  have first : Gives (readWritten .ends (quoted inner ++ rest)) _ _ := readWritten_string body rest
  rw [same] at first
  obtain ⟨whole, -⟩ := first.unique (readWritten_string body₂ left)
  rw [quoted, quoted, List.cons_inj_right, List.append_left_inj] at whole
  exact whole

end Json

namespace FrameText

open Json (Ending Gives Blank StringBody readString)

/-- A string that is read as a text is decoded as the bytes of the text. The frame text of some
output is read as a text exactly when the output is the bytes of a text, and then as this text: its
characters are all that is written. -/
theorem decode_agrees_with_readString (ending : Ending) :
    (∀ input text rest, Gives (readString ending input) text rest →
      ∃ gap inner, Blank gap ∧ input = gap ++ (Json.quoted inner ++ rest) ∧ StringBody inner ∧
        decode (Json.quoted inner) = .ok (textBytes text)) ∧
    (∀ data rest,
      (∃ text left, Gives (readString ending (textBytes (encode data) ++ rest)) text left) ↔
        ∃ text, textBytes text = data) ∧
    ∀ text rest,
      Gives (readString ending (textBytes (encode (textBytes text)) ++ rest)) text rest ∧
        body (textBytes text) = text.toList.flatMap encodeChar := by
  refine ⟨fun _ _ _ => Json.readString_from, fun data rest => ⟨?_, ?_⟩, fun text rest => ?_⟩
  · rintro ⟨text, left, read⟩
    obtain ⟨gap, inner, blank, split, grammar, decoded⟩ := Json.readString_from read
    rw [textBytes_encode] at split
    -- the quote is the first byte, so no blanks stand before it
    have none : gap = [] := by
      cases gap with
      | nil => rfl
      | cons b more =>
        obtain ⟨rfl, -⟩ := List.cons.inj split
        cases blank _ List.mem_cons_self
    subst none
    obtain rfl := Json.quoted_inj (stringBody_body data) grammar split
    rw [← textBytes_encode, decode_encode] at decoded
    exact ⟨text, (Except.ok.inj decoded).symm⟩
  · rintro ⟨text, rfl⟩
    exact ⟨text, rest, Json.readString_encode text rest⟩
  · exact ⟨Json.readString_encode text rest, Json.body_textBytes text⟩

end FrameText

end TermTape

import TermTape.Json.Print
import TermTape.Proofs.Json.Reading
import TermTape.Proofs.Number.Digits
import TermTape.Proofs.Text.Utf8

/-!
# Printed strings

A printed string is read as the string it was printed from (`readText_printed`): its escapes are
resolved one by one, and every other character stands for itself.
-/
namespace TermTape

/-! ## Bytes that stand for themselves -/

/-- A byte of a string that is no quote, no backslash and no control. -/
def PlainByte (b : UInt8) : Prop := 0x20 ≤ b.toNat ∧ b.toNat ≠ 0x22 ∧ b.toNat ≠ 0x5c

/-- A character of a string that is no quote, no backslash and no control of ASCII. -/
def PlainChar (c : Char) : Prop := 0x20 ≤ c.toNat ∧ c ≠ '"' ∧ c ≠ '\\'

instance (c : Char) : Decidable (PlainChar c) := inferInstanceAs (Decidable (_ ∧ _ ∧ _))

theorem PlainByte.ne_quote {b : UInt8} (plain : PlainByte b) : b ≠ 0x22 := by
  rintro rfl
  exact plain.2.1 rfl

theorem PlainByte.ne_backslash {b : UInt8} (plain : PlainByte b) : b ≠ 0x5c := by
  rintro rfl
  exact plain.2.2 rfl

theorem PlainByte.not_control {b : UInt8} (plain : PlainByte b) : ¬ b < 0x20 :=
  fun control => Nat.not_lt.mpr plain.1 (UInt8.lt_iff_toNat_lt.mp control)

private theorem plainByte_of_high {b : UInt8} (h : 128 ≤ b.toNat) : PlainByte b :=
  ⟨by omega, by omega, by omega⟩

/-- The bytes of a plain character are plain. -/
theorem plainByte_of_plainChar {c : Char} (plain : PlainChar c) :
    ∀ b ∈ Utf8.encodeChar c, PlainByte b := by
  by_cases ascii : c.toNat < 128
  · rw [Utf8.encodeChar_one ascii]
    have value := Utf8.toNat_byte (n := c.toNat) (by omega)
    have quote : c.toNat ≠ 34 := fun h => plain.2.1 (Char.toNat_inj.mp h)
    have backslash : c.toNat ≠ 92 := fun h => plain.2.2 (Char.toNat_inj.mp h)
    have := plain.1
    simp only [List.mem_singleton]
    rintro b rfl
    exact ⟨by omega, by omega, by omega⟩
  · exact fun b member => plainByte_of_high (Utf8.encodeChar_high (by omega) b member)

namespace Json

/-! ## Reading what stands between the quotes -/

theorem readStringBytes_quote (ending : Ending) (before rest : Bytes) :
    readStringBytes ending before (byte '"' :: rest) = .ok (before.reverse, rest) := by
  rw [readStringBytes]
  exact if_pos rfl

theorem readStringBytes_plain (ending : Ending) (before : Bytes) {bytes : Bytes}
    (plain : ∀ b ∈ bytes, PlainByte b) (rest : Bytes) :
    readStringBytes ending before (bytes ++ rest) =
      readStringBytes ending (bytes.reverse ++ before) rest := by
  induction bytes generalizing before with
  | nil => rfl
  | cons b more ih =>
    obtain ⟨first, others⟩ := List.forall_mem_cons.mp plain
    have quote : b ≠ byte '"' := first.ne_quote
    have backslash : b ≠ byte '\\' := first.ne_backslash
    rw [List.cons_append, readStringBytes]
    simp [quote, backslash, first.not_control, ih (b :: before) others]

theorem readStringBytes_escape {ending : Ending} {before input bytes rest : Bytes}
    (escape : Gives (readEscape ending input) bytes rest) :
    readStringBytes ending before (byte '\\' :: input) =
      readStringBytes ending (bytes.reverse ++ before) rest := by
  obtain ⟨h, escape⟩ := escape
  rw [readStringBytes]
  simp [escape, show byte '\\' ≠ byte '"' by decide]

theorem readEscape_short {ending : Ending} {letter b : UInt8} (rest : Bytes)
    (short : shortEscape? letter = some b) : Gives (readEscape ending (letter :: rest)) [b] rest := by
  have other : letter ≠ byte 'u' := by
    rintro rfl
    cases short
  exact ⟨by simp, by simp [readEscape, other, short]⟩

theorem readEscape_unit {ending : Ending} {a b c d : UInt8} {unit : Nat} (rest : Bytes)
    (digits : hexUnit? a b c d = some unit) (low : isLowUnit unit = false)
    (high : isHighUnit unit = false) :
    Gives (readEscape ending (byte 'u' :: a :: b :: c :: d :: rest))
      (Utf8.encodeChar (Char.ofNat unit)) rest :=
  ⟨by simp; omega, by simp [readEscape, readCodeEscape, readUnit, digits, low, high, bind, Except.bind]⟩

theorem readEscape_pair {ending : Ending} {a b c d a₂ b₂ c₂ d₂ : UInt8} {unit low : Nat} (rest : Bytes)
    (digits : hexUnit? a b c d = some unit) (digits₂ : hexUnit? a₂ b₂ c₂ d₂ = some low)
    (high : isHighUnit unit = true) (isLow : isLowUnit low = true) :
    Gives (readEscape ending
        (byte 'u' :: a :: b :: c :: d :: byte '\\' :: byte 'u' :: a₂ :: b₂ :: c₂ :: d₂ :: rest))
      (Utf8.encodeChar (pairChar unit low)) rest := by
  have first : isLowUnit unit = false := by
    simp [isHighUnit] at high
    simp [isLowUnit]
    omega
  refine ⟨by simp; omega, ?_⟩
  simp [readEscape, readCodeEscape, readUnit, readLowUnit, digits, digits₂, high, first, isLow,
    bind, Except.bind]

/-! ## Escapes by code unit -/

/-- The letters of an escape by code unit. -/
def unitLetters (unit : Nat) : List Char := '\\' :: 'u' :: places 16 4 unit

/-- The byte is the hexadecimal digit of a value, a letter in either case. -/
def HexDigit (b : UInt8) (value : Nat) : Prop :=
  value < 16 ∧ (b = byte value.digitChar ∨ b = byte value.digitChar.toUpper)

private theorem hexDigit_digitChar {value : Nat} (small : value < 16) :
    HexDigit (byte value.digitChar) value :=
  ⟨small, .inl rfl⟩

private theorem hexValue?_digitChar : ∀ d < 16, hexValue? (byte d.digitChar) = some d := by
  decide

private theorem hexValue?_toUpper : ∀ d < 16, hexValue? (byte d.digitChar.toUpper) = some d := by
  decide

/-- In a run of codes that are digits one after another, a byte is the digit at its place. -/
theorem byte_of_run {b : UInt8} (first last offset : Nat) (digit : Nat → Char)
    (run : ∀ code < last + 1, first ≤ code → (byte (digit (code - offset))).toNat = code)
    (low : first ≤ b.toNat) (high : b.toNat ≤ last) : b = byte (digit (b.toNat - offset)) :=
  UInt8.toNat_inj.mp (run b.toNat (Nat.lt_succ_of_le high) low).symm

/-- What has a value is a digit, and the value is the digit's. -/
theorem hexValue?_eq_some {b : UInt8} {value : Nat} :
    hexValue? b = some value ↔ HexDigit b value := by
  constructor
  · intro found
    simp only [hexValue?, Bool.and_eq_true, decide_eq_true_eq, UInt8.le_iff_toNat_le] at found
    split at found
    · rename_i decimal
      obtain ⟨low, high⟩ : 0x30 ≤ b.toNat ∧ b.toNat ≤ 0x39 := decimal
      obtain rfl := Option.some.inj found
      exact ⟨by omega, .inl (byte_of_run 0x30 0x39 0x30 Nat.digitChar (by decide) low high)⟩
    split at found
    · rename_i small
      obtain ⟨low, high⟩ : 0x61 ≤ b.toNat ∧ b.toNat ≤ 0x66 := small
      obtain rfl := Option.some.inj found
      exact ⟨by omega, .inl (byte_of_run 0x61 0x66 0x57 Nat.digitChar (by decide) low high)⟩
    split at found
    · rename_i capital
      obtain ⟨low, high⟩ : 0x41 ≤ b.toNat ∧ b.toNat ≤ 0x46 := capital
      obtain rfl := Option.some.inj found
      exact ⟨by omega,
        .inr (byte_of_run 0x41 0x46 0x37 (Char.toUpper ∘ Nat.digitChar) (by decide) low high)⟩
    · cases found
  · rintro ⟨small, rfl | rfl⟩
    · exact hexValue?_digitChar value small
    · exact hexValue?_toUpper value small

/-- An escape by code unit takes four hexadecimal digits and nothing else, and its unit is the
number that they write. -/
theorem hexUnit?_eq_some {a b c d : UInt8} {unit : Nat} :
    hexUnit? a b c d = some unit ↔
      ∃ p q r s, HexDigit a p ∧ HexDigit b q ∧ HexDigit c r ∧ HexDigit d s ∧
        unit = ((p * 16 + q) * 16 + r) * 16 + s := by
  simp only [hexUnit?, Option.bind_eq_bind, Option.bind_eq_some_iff, Option.some.injEq,
    hexValue?_eq_some]
  constructor
  · rintro ⟨p, first, q, second, r, third, s, fourth, same⟩
    exact ⟨p, q, r, s, first, second, third, fourth, same.symm⟩
  · rintro ⟨p, q, r, s, first, second, third, fourth, same⟩
    exact ⟨p, first, q, second, r, third, s, fourth, same.symm⟩

private theorem digitChar_ascii : ∀ d < 16, d.digitChar.toNat < 128 := by
  decide

/-- The digits of an escape by code unit are read as the unit. -/
theorem encode_unitLetters {unit : Nat} (small : unit < 65536) :
    ∃ a b c d, Utf8.encode (unitLetters unit) = [byte '\\', byte 'u', a, b, c, d] ∧
      hexUnit? a b c d = some unit := by
  have digit : ∀ n, n % 16 < 16 := fun n => Nat.mod_lt n (by decide)
  refine ⟨byte (unit / 16 / 16 / 16 % 16).digitChar, byte (unit / 16 / 16 % 16).digitChar,
    byte (unit / 16 % 16).digitChar, byte (unit % 16).digitChar, ?_, ?_⟩
  · simp [unitLetters, places, Utf8.encode, Utf8.encodeChar_one, digitChar_ascii _ (digit _), byte]
  · refine hexUnit?_eq_some.mpr ⟨_, _, _, _, hexDigit_digitChar (digit _),
      hexDigit_digitChar (digit _), hexDigit_digitChar (digit _), hexDigit_digitChar (digit _), ?_⟩
    omega

/-! ## Printing -/

namespace Print

/-- The bytes of printed segments. -/
def bytes (segments : List String) : Bytes := segments.flatMap textBytes

@[simp] theorem bytes_nil : bytes [] = [] := rfl

@[simp] theorem bytes_cons (segment : String) (rest : List String) :
    bytes (segment :: rest) = textBytes segment ++ bytes rest :=
  List.flatMap_cons

@[simp] theorem bytes_append (front back : List String) :
    bytes (front ++ back) = bytes front ++ bytes back :=
  List.flatMap_append

theorem textBytes_join (segments : List String) : textBytes (String.join segments) = bytes segments := by
  induction segments with
  | nil => rfl
  | cons segment rest ih => rw [String.join_cons, textBytes_append, ih, bytes_cons]

/-- A character as it is printed in a string. -/
def escaped (c : Char) : List Char := (escape? c).getD [c]

private theorem bytes_flush (run : List Char) : bytes (flush run) = Utf8.encode run.reverse := by
  cases run with
  | nil => rfl
  | cons c rest => simp [flush, textBytes]

/-- The segments of a string are together its characters as they are printed. -/
theorem bytes_contents (run text : List Char) :
    bytes (contents run text) = Utf8.encode (run.reverse ++ text.flatMap escaped) := by
  induction text generalizing run with
  | nil => simp [contents, bytes_flush]
  | cons c rest ih =>
    rw [contents]
    cases found : escape? c with
    | none => simp [ih, escaped, found]
    | some letters => simp [ih, escaped, found, bytes_flush, textBytes, Utf8.encode_append]

/-- A character that has no escape is plain. -/
theorem plainChar_of_unescaped {c : Char} (h : escape? c = none) : PlainChar c := by
  unfold escape? at h
  refine ⟨Nat.not_lt.mp fun control => ?_, ?_, ?_⟩
  · repeat' split at h
    all_goals simp_all
  · rintro rfl
    cases h
  · rintro rfl
    cases h

private theorem paddedHex_control : ∀ n < 32,
    ['\\', 'u', '0', '0'] ++ escape?.paddedHex n = unitLetters n := by
  decide

/-- A character is printed plain, by a letter after a backslash, or by its code in hexadecimal. -/
theorem escape?_cases (c : Char) :
    escape? c = none ∨
      (∃ letter, escape? c = some ['\\', letter] ∧ letter.toNat < 128 ∧ c.toNat < 128 ∧
        shortEscape? (byte letter) = some (byte c)) ∨
      (escape? c = some (unitLetters c.toNat) ∧ c.toNat < 32) := by
  by_cases quote : c = '"' ∨ c = '\\'
  · exact .inr (.inl ⟨c, by simp [escape?, quote], by rcases quote with rfl | rfl <;> decide⟩)
  by_cases named : c = '\x08' ∨ c = '\x0c' ∨ c = '\n' ∨ c = '\r' ∨ c = '\t'
  · rcases named with rfl | rfl | rfl | rfl | rfl <;> exact .inr (.inl ⟨_, rfl, by decide⟩)
  simp only [not_or] at quote named
  by_cases control : c.toNat < 32
  · refine .inr (.inr ⟨?_, control⟩)
    rw [← paddedHex_control _ control]
    simp [escape?, quote, named, control]
  · exact .inl (by simp [escape?, quote, named, control])

end Print

/-! ## Reading what was printed -/

/-- A printed character is read as its bytes. -/
theorem readStringBytes_escaped (ending : Ending) (before : Bytes) (c : Char) (rest : Bytes) :
    readStringBytes ending before (Utf8.encode (Print.escaped c) ++ rest) =
      readStringBytes ending ((Utf8.encodeChar c).reverse ++ before) rest := by
  rcases Print.escape?_cases c with plain | ⟨letter, short, ascii, low, found⟩ | ⟨code, control⟩
  · have whole := plainByte_of_plainChar (Print.plainChar_of_unescaped plain)
    simpa [Print.escaped, plain, Utf8.encode] using readStringBytes_plain ending before whole rest
  · have bytes : Utf8.encode (Print.escaped c) = [byte '\\', byte letter] := by
      simp [Print.escaped, short, Utf8.encode, Utf8.encodeChar_one, ascii, byte]
    rw [bytes, Utf8.encodeChar_one low]
    exact readStringBytes_escape (readEscape_short rest found)
  · have small : c.toNat < 65536 := by omega
    have low : isLowUnit c.toNat = false := by simp [isLowUnit]; omega
    have high : isHighUnit c.toNat = false := by simp [isHighUnit]; omega
    obtain ⟨a, b, d, e, bytes, digits⟩ := encode_unitLetters small
    have whole : Gives (readEscape ending ([byte 'u', a, b, d, e] ++ rest)) (Utf8.encodeChar c) rest := by
      have escape : Gives (readEscape ending ([byte 'u', a, b, d, e] ++ rest)) _ rest :=
        readEscape_unit rest digits low high
      rwa [Char.ofNat_toNat] at escape
    rw [Print.escaped, code, Option.getD_some, bytes]
    exact readStringBytes_escape whole

/-- Printed characters up to a quote are read as their bytes. -/
theorem readStringBytes_printed (ending : Ending) (text : List Char) (before rest : Bytes) :
    readStringBytes ending before (Utf8.encode (text.flatMap Print.escaped) ++ byte '"' :: rest) =
      .ok (before.reverse ++ Utf8.encode text, rest) := by
  induction text generalizing before with
  | nil => simp [Utf8.encode, readStringBytes_quote]
  | cons c more ih =>
    rw [List.flatMap_cons, Utf8.encode_append, List.append_assoc, readStringBytes_escaped, ih,
      Utf8.encode_cons]
    simp

/-- Bytes of a text up to a quote are read as the text. -/
theorem readText_gives {ending : Ending} {input rest : Bytes} {text : String}
    (bytes : readStringBytes ending [] input = .ok (textBytes text, rest)) :
    Gives (readText ending input) text rest := by
  refine ⟨length_lt_of_readStringBytes bytes, ?_⟩
  unfold readText
  split
  · simp_all
  · rename_i h
    rw [bytes] at h
    cases h
    simp [text?_textBytes]

/-- A printed string is read as the string. -/
theorem readText_printed (ending : Ending) (text : String) (rest : Bytes) :
    Gives (readText ending
      (Utf8.encode (text.toList.flatMap Print.escaped) ++ byte '"' :: rest)) text rest :=
  readText_gives (readStringBytes_printed ending text.toList [] rest)

/-- The bytes of a string around those between its quotes. -/
def quoted (body : Bytes) : Bytes := byte '"' :: (body ++ [byte '"'])

theorem quoted_append (body rest : Bytes) :
    quoted body ++ rest = byte '"' :: (body ++ byte '"' :: rest) := by
  simp [quoted]

theorem Print.bytes_string (text : String) :
    Print.bytes (Print.string text) = quoted (Utf8.encode (text.toList.flatMap Print.escaped)) := by
  have quote : textBytes "\"" = [byte '"'] := rfl
  simp [Print.string, Print.bytes_contents, quote, quoted]

end Json

end TermTape

import TermTape.Proofs.Json.Written
import TermTape.Recording.FrameText

/-!
# Frame texts, there and back

Every output is decoded from its frame text byte by byte (`decode_encode`), also where the bytes of
the output are no characters. A frame text is a JSON string (`stringBody_body`).
-/
namespace TermTape.FrameText

open Json (byte shortEscape? hexUnit? isHighUnit isLowUnit pairChar)
open Json (StringBody unitLetters encode_unitLetters)

variable {before rest : Bytes}

/-! ## Steps of decoding -/

theorem decodeBody_plain {b : UInt8} (plain : b ≠ byte '\\') :
    decodeBody before (b :: rest) = decodeBody (b :: before) rest := by
  have other : b ≠ 0x5c := plain
  rw [decodeBody.eq_def]
  split <;> simp_all

private theorem decodeBody_high {bytes : Bytes} (plain : ∀ b ∈ bytes, b ≠ byte '\\') :
    decodeBody before (bytes ++ rest) = decodeBody (bytes.reverse ++ before) rest := by
  induction bytes generalizing before with
  | nil => rfl
  | cons b more ih =>
    obtain ⟨first, others⟩ := List.forall_mem_cons.mp plain
    rw [List.cons_append, decodeBody_plain first, ih others]
    simp

theorem decodeBody_short {letter b : UInt8} (short : shortEscape? letter = some b) :
    decodeBody before (byte '\\' :: letter :: rest) = decodeBody (b :: before) rest := by
  have other : letter ≠ 0x75 := by
    rintro rfl
    cases short
  change decodeBody before (0x5c :: letter :: rest) = _
  rw [decodeBody]
  · simp [short]
  · exact fun _ _ _ _ _ h => absurd h other
  · exact fun h => absurd h other

theorem decodeBody_unit {a b c d : UInt8} {unit : Nat} (digits : hexUnit? a b c d = some unit)
    (high : isHighUnit unit = false) :
    decodeBody before (byte '\\' :: byte 'u' :: a :: b :: c :: d :: rest) =
      decodeBody ((loneUnit unit).reverse ++ before) rest := by
  change decodeBody before (0x5c :: 0x75 :: a :: b :: c :: d :: rest) = _
  rw [decodeBody]
  simp [digits, high]

theorem decodeBody_pair (before rest : Bytes) {a b c d a₂ b₂ c₂ d₂ : UInt8} {unit low : Nat}
    (digits : hexUnit? a b c d = some unit) (digits₂ : hexUnit? a₂ b₂ c₂ d₂ = some low)
    (high : isHighUnit unit = true) (isLow : isLowUnit low = true) :
    decodeBody before (byte '\\' :: byte 'u' :: a :: b :: c :: d ::
        byte '\\' :: byte 'u' :: a₂ :: b₂ :: c₂ :: d₂ :: rest) =
      decodeBody ((Utf8.encodeChar (pairChar unit low)).reverse ++ before) rest := by
  change decodeBody before (0x5c :: 0x75 :: a :: b :: c :: d ::
    0x5c :: 0x75 :: a₂ :: b₂ :: c₂ :: d₂ :: rest) = _
  rw [decodeBody]
  simp [digits, high, digits₂, isLow]

/-- A high surrogate before anything but an escape of a code unit stands alone. -/
theorem decodeBody_alone {a b c d : UInt8} {unit : Nat} (digits : hexUnit? a b c d = some unit)
    (high : isHighUnit unit = true)
    (next : ∀ more, rest ≠ byte '\\' :: byte 'u' :: more) :
    decodeBody before (byte '\\' :: byte 'u' :: a :: b :: c :: d :: rest) =
      decodeBody ((loneUnit unit).reverse ++ before) rest := by
  change decodeBody before (0x5c :: 0x75 :: a :: b :: c :: d :: rest) = _
  rw [decodeBody]
  simp only [digits, high, if_true]
  split
  · exact absurd rfl (next _)
  · exact absurd rfl (next _)
  · rfl

/-- A high surrogate before a code unit that is no low one stands alone, and the other unit is read
again. -/
theorem decodeBody_unpaired {a b c d a₂ b₂ c₂ d₂ : UInt8} {unit unit₂ : Nat}
    (digits : hexUnit? a b c d = some unit) (digits₂ : hexUnit? a₂ b₂ c₂ d₂ = some unit₂)
    (high : isHighUnit unit = true) (other : isLowUnit unit₂ = false) :
    decodeBody before (byte '\\' :: byte 'u' :: a :: b :: c :: d ::
        byte '\\' :: byte 'u' :: a₂ :: b₂ :: c₂ :: d₂ :: rest) =
      decodeBody ((loneUnit unit).reverse ++ before)
        (byte '\\' :: byte 'u' :: a₂ :: b₂ :: c₂ :: d₂ :: rest) := by
  change decodeBody before (0x5c :: 0x75 :: a :: b :: c :: d ::
    0x5c :: 0x75 :: a₂ :: b₂ :: c₂ :: d₂ :: rest) = _
  rw [decodeBody]
  simp [digits, high, digits₂, other]
  rfl

/-- The bytes that were decoded before are not looked at again. -/
theorem decodeBody_append (after before input : Bytes) :
    decodeBody (after ++ before) input = (decodeBody after input).map (before.reverse ++ ·) := by
  fun_induction decodeBody after input with
  -- the text ends, or is refused
  | case1 | case2 | case3 | case4 | case7 | case10 | case12 => simp_all [decodeBody, Except.map]
  -- a byte, an escape or a pair of escapes is passed
  | case5 | case6 | case8 | case9 | case11 | case13 =>
    rename_i ih
    rw [← ih, decodeBody]
    all_goals simp_all

/-! ## Characters -/

theorem unitEscape_eq {unit : Nat} (small : unit < 65536) : unitEscape unit = unitLetters unit := by
  have padded := padded_eq_places (show 1 < 16 by decide) 3 unit small
  simp [unitEscape, unitLetters, ← padded]

/-- The escape of a unit that is no high surrogate is decoded as what the unit alone stands for. -/
theorem decodeBody_unitEscape {unit : Nat} (small : unit < 65536) (high : isHighUnit unit = false) :
    decodeBody before (Utf8.encode (unitEscape unit) ++ rest) =
      decodeBody ((loneUnit unit).reverse ++ before) rest := by
  obtain ⟨a, b, c, d, bytes, digits⟩ := encode_unitLetters small
  rw [unitEscape_eq small, bytes]
  exact decodeBody_unit digits high

private theorem stringBody_unitEscape {unit : Nat} (small : unit < 65536) :
    StringBody (Utf8.encode (unitEscape unit)) := by
  obtain ⟨a, b, c, d, bytes, digits⟩ := encode_unitLetters small
  rw [unitEscape_eq small, bytes]
  exact .unit (by rw [digits]; rfl) .nil

theorem not_surrogate (c : Char) : isHighUnit c.toNat = false ∧ isLowUnit c.toNat = false := by
  have valid : c.toNat.isValidChar := c.valid
  unfold Nat.isValidChar at valid
  simp only [isHighUnit, isLowUnit, Bool.and_eq_false_iff, decide_eq_false_iff_not]
  omega

private theorem loneUnit_char {c : Char} : loneUnit c.toNat = Utf8.encodeChar c := by
  obtain ⟨high, low⟩ := not_surrogate c
  have plain : ¬ (0xdc80 ≤ c.toNat ∧ c.toNat ≤ 0xdcff) := by
    simp [isLowUnit] at low
    omega
  simp [loneUnit, plain, high, low]

/-- A character is one code unit, or a pair of surrogates that is the character. -/
theorem codeUnits_cases (c : Char) :
    (c.toNat < 65536 ∧ codeUnits c = [c.toNat]) ∨
    ∃ unit low, codeUnits c = [unit, low] ∧ unit < 65536 ∧ low < 65536 ∧
      isHighUnit unit = true ∧ isLowUnit low = true ∧ pairChar unit low = c := by
  have valid : c.toNat.isValidChar := c.valid
  unfold Nat.isValidChar at valid
  by_cases one : c.toNat < 65536
  · exact .inl ⟨one, if_pos one⟩
  refine .inr ⟨_, _, if_neg one, by omega, by omega, ?_, ?_, ?_⟩
  · simp [isHighUnit]
    omega
  · simp [isLowUnit]
    omega
  · rw [pairChar, ← Char.toNat_inj, Utf8.toNat_ofNat (by unfold Nat.isValidChar; omega)]
    omega

/-- The escapes of a character are decoded as its bytes. -/
theorem decodeBody_codeUnits (c : Char) :
    decodeBody before (Utf8.encode ((codeUnits c).flatMap unitEscape) ++ rest) =
      decodeBody ((Utf8.encodeChar c).reverse ++ before) rest := by
  rcases codeUnits_cases c with ⟨small, units⟩ | ⟨unit, low, units, small, small₂, high, isLow, char⟩
  · rw [units, List.flatMap_singleton, decodeBody_unitEscape small (not_surrogate c).1, loneUnit_char]
  · obtain ⟨a, b, d, e, bytes, digits⟩ := encode_unitLetters small
    obtain ⟨a₂, b₂, d₂, e₂, bytes₂, digits₂⟩ := encode_unitLetters small₂
    have pair := decodeBody_pair before rest digits digits₂ high isLow
    rw [char] at pair
    simpa [units, unitEscape_eq small, unitEscape_eq small₂, Utf8.encode_append, bytes, bytes₂] using pair

private theorem stringBody_codeUnits (c : Char) :
    StringBody (Utf8.encode ((codeUnits c).flatMap unitEscape)) := by
  rcases codeUnits_cases c with ⟨small, units⟩ | ⟨unit, low, units, small, small₂, -⟩
  · rw [units, List.flatMap_singleton]
    exact stringBody_unitEscape small
  · rw [units, List.flatMap_cons, List.flatMap_singleton, Utf8.encode_append]
    exact (stringBody_unitEscape small).append (stringBody_unitEscape small₂)

/-- A character of a frame text has a short escape, escapes of its code units, or stands for itself. -/
theorem encodeChar_cases (c : Char) :
    (∃ letter, encodeChar c = ['\\', letter] ∧ letter.toNat < 128 ∧ c.toNat < 128 ∧
      shortEscape? (byte letter) = some (byte c)) ∨
    encodeChar c = (codeUnits c).flatMap unitEscape ∨ (encodeChar c = [c] ∧ PlainChar c) := by
  by_cases quote : c = '"' ∨ c = '\\'
  · exact .inl ⟨c, by simp [encodeChar, shortLetter?, quote], by rcases quote with rfl | rfl <;> decide⟩
  by_cases named : c = '\x08' ∨ c = '\x0c' ∨ c = '\n' ∨ c = '\r' ∨ c = '\t'
  · rcases named with rfl | rfl | rfl | rfl | rfl <;> exact .inl ⟨_, rfl, by decide⟩
  simp only [not_or] at quote named
  have long : shortLetter? c = none := by simp [shortLetter?, quote, named]
  by_cases escaped : isMarkup c || !isPrintable c
  · exact .inr (.inl (by rw [encodeChar, long]; exact if_pos escaped))
  · refine .inr (.inr ⟨by rw [encodeChar, long]; exact if_neg escaped, ?_, quote.1, quote.2⟩)
    by_contra control
    have : isPrintable c = false := by
      simp [isPrintable, CodeRanges.holds, controlRanges]
      omega
    simp [this] at escaped

private theorem decodeBody_encodeChar (c : Char) :
    decodeBody before (Utf8.encode (encodeChar c) ++ rest) =
      decodeBody ((Utf8.encodeChar c).reverse ++ before) rest := by
  rcases encodeChar_cases c with ⟨letter, short, ascii, low, found⟩ | units | ⟨plain, char⟩
  · have bytes : Utf8.encode (encodeChar c) = [byte '\\', byte letter] := by
      simp [short, Utf8.encode, Utf8.encodeChar_one, ascii, byte]
    rw [bytes, Utf8.encodeChar_one low]
    exact decodeBody_short found
  · rw [units, decodeBody_codeUnits]
  · rw [plain, Utf8.encode, List.flatMap_singleton]
    exact decodeBody_high fun b member => (plainByte_of_plainChar char b member).ne_backslash

private theorem stringBody_encodeChar (c : Char) : StringBody (Utf8.encode (encodeChar c)) := by
  rcases encodeChar_cases c with ⟨letter, short, ascii, -, found⟩ | units | ⟨plain, char⟩
  · have bytes : Utf8.encode (encodeChar c) = [byte '\\', byte letter] := by
      simp [short, Utf8.encode, Utf8.encodeChar_one, ascii, byte]
    rw [bytes]
    exact .short (by rw [found]; rfl) .nil
  · rw [units]
    exact stringBody_codeUnits c
  · rw [plain, Utf8.encode, List.flatMap_singleton]
    exact .of_plain (plainByte_of_plainChar char)

/-! ## Stray bytes -/

theorem strayUnit (b : UInt8) :
    strayBase + b.toNat < 65536 ∧ isHighUnit (strayBase + b.toNat) = false := by
  have := b.toNat_lt
  unfold strayBase
  refine ⟨by omega, ?_⟩
  rw [isHighUnit, Bool.and_eq_false_iff, decide_eq_false_iff_not, decide_eq_false_iff_not]
  omega

private theorem loneUnit_stray {b : UInt8} (high : 128 ≤ b.toNat) :
    loneUnit (strayBase + b.toNat) = [b] := by
  have small : b.toNat < 256 := b.toNat_lt
  have stray : 0xdc80 ≤ strayBase + b.toNat ∧ strayBase + b.toNat ≤ 0xdcff := by
    unfold strayBase
    omega
  rw [loneUnit, if_pos stray, Nat.add_sub_cancel_left, UInt8.ofNat_toNat]

private theorem decodeBody_stray {bytes : Bytes} (high : ∀ b ∈ bytes, 128 ≤ b.toNat) :
    decodeBody before (Utf8.encode (bytes.flatMap fun b => unitEscape (strayBase + b.toNat)) ++ rest) =
      decodeBody (bytes.reverse ++ before) rest := by
  induction bytes generalizing before with
  | nil => rfl
  | cons b more ih =>
    obtain ⟨first, others⟩ := List.forall_mem_cons.mp high
    obtain ⟨small, single⟩ := strayUnit b
    rw [List.flatMap_cons, Utf8.encode_append, List.append_assoc, decodeBody_unitEscape small single,
      loneUnit_stray first, ih others]
    simp

private theorem stringBody_stray (bytes : Bytes) :
    StringBody (Utf8.encode (bytes.flatMap fun b => unitEscape (strayBase + b.toNat))) := by
  induction bytes with
  | nil => exact .nil
  | cons b more ih =>
    rw [List.flatMap_cons, Utf8.encode_append]
    exact (stringBody_unitEscape (strayUnit b).1).append ih

/-! ## Whole texts -/

/-- The pieces of a frame text are decoded as their bytes. -/
theorem decodeBody_pieces (before rest : Bytes) {pieces : List Utf8.Piece}
    (high : ∀ run, .stray run ∈ pieces → ∀ b ∈ run, 128 ≤ b.toNat) :
    decodeBody before (Utf8.encode (pieces.flatMap encodePiece) ++ rest) =
      decodeBody ((pieces.flatMap Utf8.Piece.bytes).reverse ++ before) rest := by
  induction pieces generalizing before with
  | nil => rfl
  | cons piece more ih =>
    have others : ∀ run, .stray run ∈ more → ∀ b ∈ run, 128 ≤ b.toNat :=
      fun run member => high run (List.mem_cons_of_mem _ member)
    have first : ∀ tail, decodeBody before (Utf8.encode (encodePiece piece) ++ tail) =
        decodeBody (piece.bytes.reverse ++ before) tail := fun tail => by
      cases piece with
      | char c => exact decodeBody_encodeChar c
      | stray run => exact decodeBody_stray (high run List.mem_cons_self)
    rw [List.flatMap_cons, Utf8.encode_append, List.append_assoc, first, ih _ others]
    simp

theorem stringBody_body (data : Bytes) : StringBody (Utf8.encode (body data)) := by
  unfold body
  induction Utf8.pieces data with
  | nil => exact .nil
  | cons piece more ih =>
    rw [List.flatMap_cons, Utf8.encode_append]
    cases piece with
    | char c => exact (stringBody_encodeChar c).append ih
    | stray run => exact (stringBody_stray run).append ih

private theorem decodeBody_body (data : Bytes) :
    decodeBody [] (Utf8.encode (body data)) = .ok data := by
  have high : ∀ run, .stray run ∈ Utf8.pieces data → ∀ b ∈ run, 128 ≤ b.toNat :=
    fun _ piece _ => Utf8.stray_high piece
  have decoded := decodeBody_pieces [] [] high
  rw [Utf8.bytes_pieces] at decoded
  simpa [body, decodeBody] using decoded

theorem textBytes_encode (data : Bytes) :
    textBytes (encode data) = Json.quoted (Utf8.encode (body data)) := by
  have quote : Utf8.encodeChar '"' = [byte '"'] := by decide
  simp [textBytes, encode, quote, Utf8.encode, Json.quoted]

/-- Any output is decoded from its frame text. -/
theorem decode_encode (data : Bytes) : decode (textBytes (encode data)) = .ok data := by
  have inner : between? (textBytes (encode data)) = some (Utf8.encode (body data)) := by
    rw [textBytes_encode]
    change (if (Utf8.encode (body data) ++ [(0x22 : UInt8)]).getLast? = some 0x22 then _ else _) = _
    simp
  rw [decode, inner]
  exact decodeBody_body data

end TermTape.FrameText

import TermTape.Text.Utf8

/-!
# Characters and bytes, there and back

The pieces of any bytes are together the bytes again (`bytes_pieces`), a character is cut off as
one piece whatever follows its bytes (`pieces_encodeChar_append`) or comes before them
(`decodeLossy_append_encode`), and the bytes of a stray run lie outside ASCII (`stray_high`). So the
bytes of a text are the bytes of no other (`text?_textBytes`).
-/
namespace TermTape
namespace Utf8

/-! ## Bytes as numbers -/

theorem toNat_ofNat {n : Nat} (valid : n.isValidChar) : (Char.ofNat n).toNat = n := by
  rw [Char.ofNat, dif_pos valid]
  rfl

theorem toNat_byte {n : Nat} (small : n < 256) : (UInt8.ofNat n).toNat = n :=
  UInt8.toNat_ofNat_of_lt' small

private theorem toNat_tailByte (bits : Nat) : (tailByte bits).toNat = 128 + bits % 64 :=
  toNat_byte (by omega)

private theorem isTail_iff {b : UInt8} : isTail b = true ↔ 128 ≤ b.toNat ∧ b.toNat ≤ 191 := by
  simp [isTail, UInt8.le_iff_toNat_le]

private theorem isLead_iff {b : UInt8} : isLead b = true ↔ 194 ≤ b.toNat ∧ b.toNat ≤ 244 := by
  simp [isLead, UInt8.le_iff_toNat_le]

/-- A second byte continues a character, within the bounds that four first bytes set. -/
theorem isSecond_iff {a b : UInt8} :
    isSecond a b = true ↔ 128 ≤ b.toNat ∧ b.toNat ≤ 191 ∧ (a.toNat = 224 → 160 ≤ b.toNat) ∧
      (a.toNat = 237 → b.toNat ≤ 159) ∧ (a.toNat = 240 → 144 ≤ b.toNat) ∧
      (a.toNat = 244 → b.toNat ≤ 143) := by
  unfold isSecond
  simp only [beq_iff_eq, ← UInt8.toNat_inj]
  repeat' split
  all_goals simp_all [isTail, UInt8.le_iff_toNat_le]
  all_goals omega

/-! ## The bytes of a character -/

theorem encodeChar_one {c : Char} (h : c.toNat < 128) : encodeChar c = [UInt8.ofNat c.toNat] := by
  simp [encodeChar, h]

private theorem encodeChar_two {c : Char} (h : 128 ≤ c.toNat) (h' : c.toNat < 2048) :
    encodeChar c = [UInt8.ofNat (192 + c.toNat / 64), tailByte c.toNat] := by
  simp [encodeChar, Nat.not_lt.mpr h, h']

private theorem encodeChar_three {c : Char} (h : 2048 ≤ c.toNat) (h' : c.toNat < 65536) :
    encodeChar c =
      [UInt8.ofNat (224 + c.toNat / 4096), tailByte (c.toNat / 64), tailByte c.toNat] := by
  have h₁ : ¬ c.toNat < 128 := by omega
  simp [encodeChar, h₁, Nat.not_lt.mpr h, h']

private theorem encodeChar_four {c : Char} (h : 65536 ≤ c.toNat) :
    encodeChar c = [UInt8.ofNat (240 + c.toNat / 262144), tailByte (c.toNat / 4096),
      tailByte (c.toNat / 64), tailByte c.toNat] := by
  have h₁ : ¬ c.toNat < 128 := by omega
  have h₂ : ¬ c.toNat < 2048 := by omega
  simp [encodeChar, h₁, h₂, Nat.not_lt.mpr h]

private theorem encodeChar_join2 {a b : UInt8} (lead : isLead a = true)
    (second : isSecond a b = true) (short : a < 0xe0) : encodeChar (join2 a b) = [a, b] := by
  rw [isLead_iff] at lead
  rw [isSecond_iff] at second
  have short : a.toNat < 224 := UInt8.lt_iff_toNat_lt.mp short
  have value : (join2 a b).toNat = a.toNat % 32 * 64 + b.toNat % 64 :=
    toNat_ofNat (Or.inl (by omega))
  rw [encodeChar_two (by omega) (by omega), value]
  simp only [List.cons.injEq, and_true, ← UInt8.toNat_inj, toNat_tailByte]
  exact ⟨by rw [toNat_byte (by omega)]; omega, by omega⟩

private theorem encodeChar_join3 {a b c : UInt8} (second : isSecond a b = true)
    (third : isTail c = true)
    (long : ¬ a < 0xe0) (short : a < 0xf0) : encodeChar (join3 a b c) = [a, b, c] := by
  rw [isSecond_iff] at second
  rw [isTail_iff] at third
  have long : ¬ a.toNat < 224 := fun h => long (UInt8.lt_iff_toNat_lt.mpr h)
  have short : a.toNat < 240 := UInt8.lt_iff_toNat_lt.mp short
  have value : (join3 a b c).toNat = a.toNat % 16 * 4096 + b.toNat % 64 * 64 + c.toNat % 64 :=
    toNat_ofNat (by unfold Nat.isValidChar; omega)
  rw [encodeChar_three (by omega) (by omega), value]
  simp only [List.cons.injEq, and_true, ← UInt8.toNat_inj, toNat_tailByte]
  exact ⟨by rw [toNat_byte (by omega)]; omega, by omega, by omega⟩

private theorem encodeChar_join4 {a b c d : UInt8} (lead : isLead a = true)
    (second : isSecond a b = true)
    (third : isTail c = true) (fourth : isTail d = true) (long : ¬ a < 0xf0) :
    encodeChar (join4 a b c d) = [a, b, c, d] := by
  rw [isLead_iff] at lead
  rw [isSecond_iff] at second
  rw [isTail_iff] at third fourth
  have long : ¬ a.toNat < 240 := fun h => long (UInt8.lt_iff_toNat_lt.mpr h)
  have value : (join4 a b c d).toNat =
      a.toNat % 8 * 262144 + b.toNat % 64 * 4096 + c.toNat % 64 * 64 + d.toNat % 64 :=
    toNat_ofNat (by unfold Nat.isValidChar; omega)
  rw [encodeChar_four (by omega), value]
  simp only [List.cons.injEq, and_true, ← UInt8.toNat_inj, toNat_tailByte]
  exact ⟨by rw [toNat_byte (by omega)]; omega, by omega, by omega, by omega⟩

/-- The bytes of a character outside ASCII are outside ASCII. -/
theorem encodeChar_high {c : Char} (h : 128 ≤ c.toNat) : ∀ b ∈ encodeChar c, 128 ≤ b.toNat := by
  have valid : c.toNat.isValidChar := c.valid
  unfold Nat.isValidChar at valid
  have tail : ∀ bits, 128 ≤ (tailByte bits).toNat := fun bits => by
    rw [toNat_tailByte]
    omega
  by_cases two : c.toNat < 2048
  · rw [encodeChar_two h two]
    simp only [List.forall_mem_cons, tail, true_and]
    exact ⟨by rw [toNat_byte (by omega)]; omega, by simp⟩
  by_cases three : c.toNat < 65536
  · rw [encodeChar_three (by omega) three]
    simp only [List.forall_mem_cons, tail, true_and]
    exact ⟨by rw [toNat_byte (by omega)]; omega, by simp⟩
  · rw [encodeChar_four (by omega)]
    simp only [List.forall_mem_cons, tail, true_and]
    exact ⟨by rw [toNat_byte (by omega)]; omega, by simp⟩

/-- The bytes of ASCII characters are their codes. -/
theorem encode_ascii {text : List Char} (h : ∀ c ∈ text, c.toNat < 128) :
    encode text = text.map fun c => UInt8.ofNat c.toNat := by
  induction text with
  | nil => rfl
  | cons c rest ih =>
    obtain ⟨first, others⟩ := List.forall_mem_cons.mp h
    rw [encode, List.flatMap_cons, encodeChar_one first, List.map_cons, ← ih others]
    rfl

theorem encode_append (front back : List Char) :
    encode (front ++ back) = encode front ++ encode back :=
  List.flatMap_append

theorem encode_cons (c : Char) (rest : List Char) : encode (c :: rest) = encodeChar c ++ encode rest :=
  List.flatMap_cons

/-! ## Pieces -/

private theorem encodeChar_ascii {a : UInt8} (h : a < 0x80) :
    encodeChar (Char.ofNat a.toNat) = [a] := by
  have small : a.toNat < 128 := UInt8.lt_iff_toNat_lt.mp h
  have value : (Char.ofNat a.toNat).toNat = a.toNat := toNat_ofNat (Or.inl (by omega))
  rw [encodeChar_one (by omega), value, UInt8.ofNat_toNat]

/-- The pieces of any bytes are together the bytes. -/
theorem bytes_pieces (data : Bytes) : (pieces data).flatMap Piece.bytes = data := by
  fun_induction pieces data <;> simp_all [Piece.bytes, encodeChar_ascii, encodeChar_join2,
    encodeChar_join3, encodeChar_join4]

private theorem byte_high {b : UInt8} : ¬ b < 0x80 ↔ 128 ≤ b.toNat :=
  (not_congr UInt8.lt_iff_toNat_lt).trans Nat.not_lt

/-- No byte of a stray run is an ASCII character. -/
theorem stray_high {data run : Bytes} {b : UInt8} (piece : Piece.stray run ∈ pieces data)
    (member : b ∈ run) : 128 ≤ b.toNat := by
  fun_induction pieces data with
  | case1 => simp at piece
  | _ => grind [byte_high, isSecond_iff, isTail_iff]

private theorem pieces_ascii {a : UInt8} (low : a < 0x80) (rest : Bytes) :
    pieces (a :: rest) = .char (Char.ofNat a.toNat) :: pieces rest := by
  rw [pieces.eq_def]
  simp [low]

private theorem pieces_two {a b : UInt8} (lead : isLead a = true) (second : isSecond a b = true)
    (short : a < 0xe0) (rest : Bytes) :
    pieces (a :: b :: rest) = .char (join2 a b) :: pieces rest := by
  have high : ¬ a < 0x80 := byte_high.mpr (by rw [isLead_iff] at lead; omega)
  rw [pieces.eq_def]
  simp [high, lead, second, short]

private theorem pieces_three {a b c : UInt8} (lead : isLead a = true) (second : isSecond a b = true)
    (third : isTail c = true) (long : ¬ a < 0xe0) (short : a < 0xf0) (rest : Bytes) :
    pieces (a :: b :: c :: rest) = .char (join3 a b c) :: pieces rest := by
  have high : ¬ a < 0x80 := byte_high.mpr (by rw [isLead_iff] at lead; omega)
  rw [pieces.eq_def]
  simp [high, lead, second, third, long, short]

private theorem pieces_four {a b c d : UInt8} (lead : isLead a = true)
    (second : isSecond a b = true)
    (third : isTail c = true) (fourth : isTail d = true) (long : ¬ a < 0xf0) (rest : Bytes) :
    pieces (a :: b :: c :: d :: rest) = .char (join4 a b c d) :: pieces rest := by
  have high : ¬ a < 0x80 := byte_high.mpr (by rw [isLead_iff] at lead; omega)
  have long' : ¬ a < 0xe0 := fun h => long (UInt8.lt_trans h (by decide))
  rw [pieces.eq_def]
  simp [high, lead, second, third, fourth, long, long']

/-- A character is one piece, whatever follows its bytes. -/
theorem pieces_encodeChar_append (c : Char) (rest : Bytes) :
    pieces (encodeChar c ++ rest) = .char c :: pieces rest := by
  have valid : c.toNat.isValidChar := c.valid
  unfold Nat.isValidChar at valid
  by_cases one : c.toNat < 128
  · rw [encodeChar_one one]
    have value := toNat_byte (n := c.toNat) (by omega)
    generalize UInt8.ofNat c.toNat = a at value
    have low : a < 0x80 := UInt8.lt_iff_toNat_lt.mpr (by simp; omega)
    simp [pieces_ascii low, value]
  by_cases two : c.toNat < 2048
  · rw [encodeChar_two (by omega) two]
    have first := toNat_byte (n := 192 + c.toNat / 64) (by omega)
    have last := toNat_tailByte c.toNat
    generalize UInt8.ofNat (192 + c.toNat / 64) = a at first
    generalize tailByte c.toNat = b at last
    have sum : a.toNat % 32 * 64 + b.toNat % 64 = c.toNat := by omega
    simp only [List.cons_append, List.nil_append]
    rw [pieces_two (isLead_iff.mpr (by omega)) (isSecond_iff.mpr (by omega))
      (UInt8.lt_iff_toNat_lt.mpr (by simp; omega)), join2, sum, Char.ofNat_toNat]
  by_cases three : c.toNat < 65536
  · rw [encodeChar_three (by omega) three]
    have first := toNat_byte (n := 224 + c.toNat / 4096) (by omega)
    have middle := toNat_tailByte (c.toNat / 64)
    have last := toNat_tailByte c.toNat
    generalize UInt8.ofNat (224 + c.toNat / 4096) = a at first
    generalize tailByte (c.toNat / 64) = b at middle
    generalize tailByte c.toNat = d at last
    have sum : a.toNat % 16 * 4096 + b.toNat % 64 * 64 + d.toNat % 64 = c.toNat := by omega
    simp only [List.cons_append, List.nil_append]
    rw [pieces_three (isLead_iff.mpr (by omega)) (isSecond_iff.mpr (by omega))
      (isTail_iff.mpr (by omega)) (by rw [UInt8.lt_iff_toNat_lt]; simp; omega)
      (UInt8.lt_iff_toNat_lt.mpr (by simp; omega)), join3, sum, Char.ofNat_toNat]
  · rw [encodeChar_four (by omega)]
    have first := toNat_byte (n := 240 + c.toNat / 262144) (by omega)
    have second := toNat_tailByte (c.toNat / 4096)
    have third := toNat_tailByte (c.toNat / 64)
    have last := toNat_tailByte c.toNat
    generalize UInt8.ofNat (240 + c.toNat / 262144) = a at first
    generalize tailByte (c.toNat / 4096) = b at second
    generalize tailByte (c.toNat / 64) = d at third
    generalize tailByte c.toNat = e at last
    have sum : a.toNat % 8 * 262144 + b.toNat % 64 * 4096 + d.toNat % 64 * 64 + e.toNat % 64 =
        c.toNat := by omega
    simp only [List.cons_append, List.nil_append]
    rw [pieces_four (isLead_iff.mpr (by omega)) (isSecond_iff.mpr (by omega))
      (isTail_iff.mpr (by omega)) (isTail_iff.mpr (by omega))
      (by rw [UInt8.lt_iff_toNat_lt]; simp; omega), join4, sum, Char.ofNat_toNat]

theorem pieces_encode (text : List Char) : pieces (encode text) = text.map Piece.char := by
  induction text with
  | nil => simp [encode, pieces]
  | cons c rest ih =>
    rw [encode_cons, pieces_encodeChar_append, ih, List.map_cons]

private theorem isSecond_of_not_isTail {a b : UInt8} (start : isTail b = false) :
    isSecond a b = false := by
  rw [Bool.eq_false_iff, Ne, isSecond_iff]
  rw [Bool.eq_false_iff, Ne, isTail_iff] at start
  omega

/-- Pieces end before a byte that continues no character. -/
theorem pieces_append {b : UInt8} (start : isTail b = false) (data rest : Bytes) :
    pieces (data ++ b :: rest) = pieces data ++ pieces (b :: rest) := by
  have second (a : UInt8) : isSecond a b = false := isSecond_of_not_isTail start
  fun_induction pieces data with
  | case1 => rfl
  | _ =>
    rw [pieces.eq_def (_ ++ _)]
    simp_all [-UInt8.not_lt]

/-- No character begins with a byte that continues one. -/
theorem isTail_head_encodeChar (c : Char) : ∃ b rest, encodeChar c = b :: rest ∧ isTail b = false := by
  have valid : c.toNat.isValidChar := c.valid
  unfold Nat.isValidChar at valid
  unfold encodeChar
  dsimp only
  repeat' split
  all_goals
    refine ⟨_, _, rfl, ?_⟩
    rw [Bool.eq_false_iff, Ne, isTail_iff, toNat_byte (by omega)]
    omega

/-- Characters are read as they are after any bytes, whole characters or not. -/
theorem decodeLossy_append_encode (data : Bytes) (text : List Char) :
    decodeLossy (data ++ encode text) = decodeLossy data ++ text := by
  cases text with
  | nil => simp [encode]
  | cons c rest =>
    obtain ⟨b, others, first, start⟩ := isTail_head_encodeChar c
    have whole := pieces_encode (c :: rest)
    rw [encode_cons, first, List.cons_append] at whole ⊢
    rw [decodeLossy, pieces_append start, whole, List.map_append, List.map_map]
    congr 1
    exact List.map_id _

/-- The bytes of characters are read as these characters. -/
theorem decode?_encode (text : List Char) : decode? (encode text) = some text := by
  rw [decode?, pieces_encode]
  induction text with
  | nil => rfl
  | cons c rest ih => simp_all

/-- The bytes that are read as a text are the bytes of the text. -/
theorem textBytes_of_text? {bytes : Bytes} {text : String} (read : text? bytes = some text) :
    textBytes text = bytes := by
  obtain ⟨chars, whole, rfl⟩ := Option.map_eq_some_iff.mp read
  rw [textBytes, String.toList_ofList]
  rw [decode?] at whole
  have joined := bytes_pieces bytes
  generalize pieces bytes = found at whole joined
  rw [← joined]
  clear read joined
  induction found generalizing chars with
  | nil =>
    obtain rfl : [] = chars := by simpa using whole
    rfl
  | cons piece more ih =>
    rw [List.mapM_cons] at whole
    obtain ⟨c, first, whole⟩ := Option.bind_eq_some_iff.mp whole
    obtain ⟨others, rest, last⟩ := Option.bind_eq_some_iff.mp whole
    obtain rfl : c :: others = chars := Option.some.inj last
    cases piece with
    | char c =>
      cases first
      rw [encode_cons, ih others rest]
      rfl
    | stray run => cases first

end Utf8

theorem textBytes_append (a b : String) : textBytes (a ++ b) = textBytes a ++ textBytes b := by
  rw [textBytes, String.toList_append, Utf8.encode_append, textBytes, textBytes]

/-- The bytes of a text are read as the text. -/
theorem text?_textBytes (text : String) : Utf8.text? (textBytes text) = some text := by
  simp [Utf8.text?, textBytes, Utf8.decode?_encode]

end TermTape

import TermTape.Proofs.Recording.FrameText

/-!
# Frame texts one after another

What the body of a frame text stands for does not depend on what follows it. The body of some
output, put before any other text, is decoded to that output and then to what the other text alone
is decoded to, or refused with its fault (`decode_quote_body`). So bodies may be joined between one
pair of quotes, however the characters of the output are split among them.
-/
namespace TermTape.FrameText

/-! ## Quotes -/

/-- A text between quotes. -/
def quote (inner : List Char) : String := String.ofList ('"' :: inner ++ ['"'])

/-- A text without the first and the last of its characters. -/
def unquote (text : String) : List Char := text.toList.tail.dropLast

private theorem unquote_encode (data : Bytes) : unquote (encode data) = body data := by
  simp [unquote, encode]

private theorem decode_quote (inner : List Char) :
    decode (textBytes (quote inner)) = decodeBody [] (Utf8.encode inner) := by
  have mark : Utf8.encodeChar '"' = [0x22] := by decide
  have quoted : textBytes (quote inner) = 0x22 :: (Utf8.encode inner ++ [0x22]) := by
    simp [textBytes, quote, mark, Utf8.encode]
  have between : between? (textBytes (quote inner)) = some (Utf8.encode inner) := by
    rw [quoted, between?, List.getLast?_concat, if_pos rfl, List.dropLast_concat]
  rw [decode, between]

/-! ## Bodies -/

/-- The body of some output is decoded before whatever follows it. -/
theorem decodeBody_body_append (data : Bytes) (rest : Bytes) :
    decodeBody [] (Utf8.encode (body data) ++ rest) = (decodeBody [] rest).map (data ++ ·) := by
  have high : ∀ run, .stray run ∈ Utf8.pieces data → ∀ b ∈ run, 128 ≤ b.toNat :=
    fun _ piece _ => Utf8.stray_high piece
  calc decodeBody [] (Utf8.encode (body data) ++ rest)
      = decodeBody (data.reverse ++ []) rest := by
        rw [body, decodeBody_pieces [] rest high, Utf8.bytes_pieces]
    _ = decodeBody ([] ++ data.reverse) rest := by rw [List.append_nil, List.nil_append]
    _ = (decodeBody [] rest).map (data ++ ·) := by
        rw [decodeBody_append, List.reverse_reverse]

/-- The body of some output, before any other text between the same quotes, is decoded to that
output and then to what the other text alone is decoded to. -/
theorem decode_quote_body (data : Bytes) (inner : List Char) :
    decode (textBytes (quote (body data ++ inner))) =
      (decode (textBytes (quote inner))).map (data ++ ·) := by
  rw [decode_quote, decode_quote, Utf8.encode_append, decodeBody_body_append]

private theorem decode_quote_bodies (parts : List Bytes) :
    decode (textBytes (quote (parts.flatMap body))) = .ok parts.flatten := by
  induction parts with
  | nil => exact decode_quote []
  | cons data parts ih =>
    rw [List.flatMap_cons, decode_quote_body, ih]
    rfl

/-- The bodies of frame texts, joined between one pair of quotes, are decoded to their outputs
joined. None is combined with what follows it, whatever that is. -/
theorem decode_joined :
    (∀ parts : List Bytes,
      decode (textBytes (quote (parts.flatMap fun data => unquote (encode data)))) =
        .ok parts.flatten) ∧
    (∀ data, decode (textBytes (encode data)) = .ok data) ∧
    ∀ (data : Bytes) (inner : List Char),
      decode (textBytes (quote (unquote (encode data) ++ inner))) =
        (decode (textBytes (quote inner))).map (data ++ ·) := by
  simp only [unquote_encode]
  exact ⟨decode_quote_bodies, decode_encode, decode_quote_body⟩

/-- A character of four bytes that is split among two outputs. -/
example : decode (textBytes (quote (body [0xf0, 0x9f] ++ body [0x98, 0x80]))) =
    .ok [0xf0, 0x9f, 0x98, 0x80] := by
  decide +kernel

end TermTape.FrameText

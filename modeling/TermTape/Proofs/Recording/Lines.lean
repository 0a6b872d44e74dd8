import TermTape.Proofs.Recording.Concatenation
import TermTape.Proofs.Recording.RoundTrip

/-!
# The lines of documents

A document with frames is twelve lines for all but the frames, one line for each frame, and two
closing lines (`lines_encode`). No text of a recording and no byte of its frames adds a line: printed
strings escape every control, and a frame text is printable characters and escapes (`Safe`).
-/
namespace TermTape

/-! ## Frame texts are safe -/

namespace FrameText

/-- A digit of an escape by code unit as it is written. -/
def isLowerHex (c : Char) : Bool := "0123456789abcdef".toList.contains c

/-- Characters are printable ones that need no escape, escapes of one letter, and escapes of code
units by four digits. -/
inductive Safe : List Char → Prop where
  | nil : Safe []
  | plain {c : Char} {rest : List Char} (printable : isPrintable c = true)
      (other : c ∉ ['"', '\\', '&', '<', '>']) (more : Safe rest) : Safe (c :: rest)
  | short {letter : Char} {rest : List Char}
      (listed : letter ∈ ['"', '\\', 'b', 'f', 'n', 'r', 't']) (more : Safe rest) :
      Safe ('\\' :: letter :: rest)
  | unit {a b c d : Char} {rest : List Char} (digits : [a, b, c, d].all isLowerHex = true)
      (more : Safe rest) : Safe ('\\' :: 'u' :: a :: b :: c :: d :: rest)

theorem Safe.append {front back : List Char} (first : Safe front) (second : Safe back) :
    Safe (front ++ back) := by
  induction first with
  | nil => exact second
  | plain printable other _ ih => exact .plain printable other ih
  | short listed _ ih => exact .short listed ih
  | unit digits _ ih => exact .unit digits ih

private theorem safe_flatMap {α : Type} {f : α → List Char} {list : List α}
    (safe : ∀ x ∈ list, Safe (f x)) :
    Safe (list.flatMap f) := by
  induction list with
  | nil => exact .nil
  | cons x rest ih =>
    obtain ⟨first, others⟩ := List.forall_mem_cons.mp safe
    exact first.append (ih others)

private theorem isLowerHex_digitChar : ∀ d < 16, isLowerHex d.digitChar = true := by
  decide

private theorem safe_unitEscape {unit : Nat} (small : unit < 65536) : Safe (unitEscape unit) := by
  have digit : ∀ n, isLowerHex (n % 16).digitChar = true :=
    fun n => isLowerHex_digitChar _ (Nat.mod_lt n (by decide))
  rw [unitEscape_eq small]
  refine .unit ?_ .nil
  simp [digit]

private theorem safe_codeUnits (c : Char) : Safe ((codeUnits c).flatMap unitEscape) := by
  refine safe_flatMap fun unit member => safe_unitEscape ?_
  rcases codeUnits_cases c with ⟨small, units⟩ | ⟨high, low, units, small, small₂, -⟩
  · rw [units] at member
    rwa [List.mem_singleton.mp member]
  · rw [units] at member
    rcases List.mem_pair.mp member with rfl | rfl
    · exact small
    · exact small₂

private theorem safe_encodeChar (c : Char) : Safe (encodeChar c) := by
  by_cases named : c = '"' ∨ c = '\\' ∨ c = '\x08' ∨ c = '\x0c' ∨ c = '\n' ∨ c = '\r' ∨ c = '\t'
  · rcases named with rfl | rfl | rfl | rfl | rfl | rfl | rfl <;> exact .short (by decide) .nil
  simp only [not_or] at named
  have long : shortLetter? c = none := by simp [shortLetter?, named]
  by_cases escaped : isMarkup c || !isPrintable c
  · have units : encodeChar c = (codeUnits c).flatMap unitEscape := by
      rw [encodeChar, long]
      exact if_pos escaped
    rw [units]
    exact safe_codeUnits c
  · have itself : encodeChar c = [c] := by
      rw [encodeChar, long]
      exact if_neg escaped
    simp only [Bool.or_eq_true, not_or, isMarkup] at escaped
    rw [itself]
    refine .plain (by simpa using escaped.2) ?_ .nil
    simpa [named, and_assoc] using escaped.1

/-- What stands between the quotes of a frame text is safe. -/
theorem safe_body (data : Bytes) : Safe (body data) := by
  refine safe_flatMap fun piece _ => ?_
  cases piece with
  | char c => exact safe_encodeChar c
  | stray bytes => exact safe_flatMap fun b _ => safe_unitEscape (strayUnit b).1

private theorem Safe.no_newline {text : List Char} (safe : Safe text) : '\n' ∉ text := by
  induction safe with
  | nil => exact List.not_mem_nil
  | plain printable _ _ ih =>
    rw [List.mem_cons, not_or]
    refine ⟨?_, ih⟩
    rintro rfl
    cases printable
  | @short letter rest listed _ ih =>
    have other : '\n' ≠ letter := by
      rintro rfl
      simp at listed
    simp [other, ih]
  | @unit a b c d rest digits _ ih =>
    have other : ∀ c, isLowerHex c = true → '\n' ≠ c := by
      rintro c digit rfl
      cases digit
    simp only [List.all_cons, List.all_nil, Bool.and_eq_true] at digits
    simp [ih, other a digits.1, other b digits.2.1, other c digits.2.2.1, other d digits.2.2.2.1]

private theorem quote_body (data : Bytes) : encode data = quote (body data) := rfl

end FrameText

/-! ## Texts of one line -/

/-- A text without line breaks. -/
def OneLine (text : String) : Prop := '\n' ∉ text.toList

instance (text : String) : Decidable (OneLine text) := inferInstanceAs (Decidable ('\n' ∉ text.toList))

namespace OneLine

theorem append {front back : String} (first : OneLine front) (second : OneLine back) :
    OneLine (front ++ back) := by
  rw [OneLine, String.toList_append, List.mem_append, not_or]
  exact ⟨first, second⟩

private theorem of_digits {text : List Char} (digits : ∀ c ∈ text, c.isDigit = true) :
    '\n' ∉ text :=
  fun member => nomatch digits _ member

theorem wholeText (n : Nat) : OneLine (wholeText n) := by
  rw [OneLine, TermTape.wholeText, String.toList_ofList]
  exact of_digits fun _ => isDigit_of_mem_toDigits

theorem fixed {x : Binary64} (finite : x.isFinite = true) : OneLine (x.fixed 6) := by
  cases x with
  | nan => cases finite
  | infinite negative => cases finite
  | finite negative units h =>
    rw [OneLine, fixed_finite, sixDigits]
    have sign : '\n' ∉ signChars negative := by cases negative <;> decide
    have whole : '\n' ∉ Nat.toDigits 10 (millionths units / million) :=
      of_digits fun _ => isDigit_of_mem_toDigits
    have fraction : '\n' ∉ places 10 6 (millionths units % million) :=
      of_digits fun _ => isDigit_of_mem_places
    simp [sign, whole, fraction]

end OneLine

namespace Json.Print

/-- A text as it is printed between quotes. -/
def quotedText (text : String) : String := String.join (string text)

private theorem toList_contents (run text : List Char) :
    (contents run text).flatMap String.toList = run.reverse ++ text.flatMap escaped := by
  induction text generalizing run with
  | nil => cases run <;> simp [contents, flush]
  | cons c rest ih =>
    rw [contents]
    cases found : escape? c with
    | none => simp [ih, escaped, found]
    | some letters => cases run <;> simp [ih, escaped, found, flush]

private theorem toList_string (text : String) :
    (string text).flatMap String.toList = (quotedText text).toList :=
  String.toList_join.symm

private theorem toList_quotedText (text : String) :
    (quotedText text).toList = '"' :: (text.toList.flatMap escaped ++ ['"']) := by
  rw [← toList_string, string]
  simp [toList_contents]

private theorem no_newline_escaped (c : Char) : '\n' ∉ escaped c := by
  rcases escape?_cases c with plain | ⟨letter, short, -, -, found⟩ | ⟨code, control⟩
  · have other := (plainChar_of_unescaped plain).1
    rw [escaped, plain, Option.getD_none, List.mem_singleton]
    rintro rfl
    simp at other
  · rw [escaped, short, Option.getD_some]
    have other : '\n' ≠ letter := by
      rintro rfl
      cases found
    simp [other]
  · rw [escaped, code, Option.getD_some, ← FrameText.unitEscape_eq (by omega)]
    exact (FrameText.safe_unitEscape (by omega)).no_newline

private theorem oneLine_quotedText (text : String) : OneLine (quotedText text) := by
  rw [OneLine, toList_quotedText]
  simp [no_newline_escaped]

end Json.Print

/-! ## The layout -/

namespace Recording

open Json.Print (quotedText)

/-- The lines of a document before those of its frames. -/
def headerLines (recording : Recording) : List String :=
  ["\x7b",
   "  \"version\": " ++ wholeText recording.version.toNat ++ ",",
   "  \"width\": " ++ wholeText recording.width.toNat ++ ",",
   "  \"height\": " ++ wholeText recording.height.toNat ++ ",",
   "  \"duration\": " ++ recording.duration.fixed 6 ++ ",",
   "  \"command\": " ++ quotedText recording.command ++ ",",
   "  \"title\": " ++ quotedText recording.title ++ ",",
   "  \"env\": \x7b",
   "    \"TERM\": " ++ quotedText recording.env.term ++ ",",
   "    \"SHELL\": " ++ quotedText recording.env.shell,
   "  \x7d,",
   "  \"stdout\": ["]

/-- The lines of frames: one for each, with a comma unless it is the last. -/
def frameLines : List Frame → List String
  | [] => []
  | [frame] => ["    " ++ frame.text]
  | frame :: rest => ("    " ++ frame.text ++ ",") :: frameLines rest

private theorem length_frameLines (frames : List Frame) :
    (frameLines frames).length = frames.length := by
  fun_induction frameLines frames <;> simp_all

/-- The lines of a document after those of its frames. -/
def closingLines : List String := ["  ]", "\x7d"]

/-- Lines, each with a line break after it. -/
def ended (lines : List String) : List Char := lines.flatMap fun line => line.toList ++ ['\n']

private theorem ended_nil : ended [] = [] := rfl

private theorem ended_cons (line : String) (rest : List String) :
    ended (line :: rest) = line.toList ++ '\n' :: ended rest := by
  simp [ended]

private theorem ended_append (front back : List String) :
    ended (front ++ back) = ended front ++ ended back :=
  List.flatMap_append

private theorem splitOn_ended {lines : List String} {last : String}
    (whole : ∀ line ∈ lines, OneLine line) (single : OneLine last) :
    (ended lines ++ last.toList).splitOn '\n' = (lines ++ [last]).map String.toList := by
  induction lines with
  | nil => exact List.splitOn_eq_singleton single
  | cons line rest ih =>
    obtain ⟨first, others⟩ := List.forall_mem_cons.mp whole
    rw [ended_cons, List.append_assoc, List.cons_append,
      List.splitOn_append_cons_self_of_not_mem first, ih others]
    rfl

/-- Printed frames are their lines, without the comma or bracket that is before the first. -/
theorem printed_frames (first : Bool) (frame : Frame) (rest : List Frame) :
    (Json.Print.lines 2 first ((frame :: rest).map fun frame => [frame.text])).flatMap String.toList ++
        ['\n'] =
      (if first then [] else [',']) ++ '\n' :: ended (frameLines (frame :: rest)) := by
  induction rest generalizing first frame with
  | nil => cases first <;> simp [Json.Print.lines, Json.Print.indent, List.replicate, frameLines, ended]
  | cons next rest ih =>
    rw [List.map_cons, Json.Print.lines, List.flatMap_append, List.append_assoc, ih]
    cases first <;> simp [Json.Print.indent, List.replicate, frameLines, ended]

/-- A document with frames is its lines. -/
theorem toList_document {recording : Recording} (some : recording.frames ≠ []) :
    recording.document.toList =
      ended (headerLines recording ++ frameLines recording.frames ++ ["  ]"]) ++ "\x7d".toList := by
  obtain ⟨frame, rest, frames⟩ := List.exists_cons_of_ne_nil some
  have printed : ∀ after, (Json.Print.lines 2 true (recording.frames.map
      ((fun text => [text]) ∘ Frame.text))).flatMap String.toList ++ '\n' :: after =
        '\n' :: (ended (frameLines recording.frames) ++ after) := by
    intro after
    rw [frames, List.append_cons]
    exact congrArg (· ++ after) (printed_frames true frame rest)
  have keys : ∀ key ∈ ["version", "width", "height", "duration", "command", "title", "env", "TERM",
      "SHELL", "stdout"], quotedText key = "\"" ++ key ++ "\"" := by
    decide
  simp only [List.forall_mem_cons] at keys
  rw [document, String.toList_join, Json.Print.object, members]
  simp [Json.Print.bracketed, Json.Print.lines, Json.Print.indent, Json.Print.member, Json.Print.list,
    Json.Print.object, Json.Print.toList_string, List.replicate, some, keys, printed, headerLines,
    ended_nil, ended_cons, ended_append]

private theorem oneLine_frame {frame : Frame} (finite : frame.delay.isFinite = true) :
    OneLine frame.text := by
  have text : OneLine (FrameText.encode frame.data) := by
    rw [OneLine, FrameText.encode, String.toList_ofList]
    simp [(FrameText.safe_body frame.data).no_newline]
  have opening : OneLine "[" := by decide
  exact (((opening.append (.fixed finite)).append (by decide)).append text).append (by decide)

private theorem oneLine_frameLines {frames : List Frame}
    (finite : ∀ frame ∈ frames, frame.delay.isFinite = true) :
    ∀ line ∈ frameLines frames, OneLine line := by
  have margin : OneLine "    " := by decide
  fun_induction frameLines frames with
  | case1 => exact List.forall_mem_nil _
  | case2 frame =>
    obtain ⟨first, -⟩ := List.forall_mem_cons.mp finite
    exact List.forall_mem_singleton.mpr (margin.append (oneLine_frame first))
  | case3 frame rest _ ih =>
    obtain ⟨first, others⟩ := List.forall_mem_cons.mp finite
    have comma : OneLine "," := by decide
    have line := (margin.append (oneLine_frame first)).append comma
    exact List.forall_mem_cons.mpr ⟨line, ih others⟩

private theorem oneLine_headerLines {recording : Recording}
    (finite : recording.duration.isFinite = true) :
    ∀ line ∈ headerLines recording, OneLine line := by
  have fixed := OneLine.fixed finite
  have whole := OneLine.wholeText
  have quoted := Json.Print.oneLine_quotedText
  simp only [OneLine] at fixed whole quoted
  simp [headerLines, OneLine, fixed, whole, quoted]

/-- A document with frames is the header lines, one line for each frame in order, and the closing
lines, whatever the texts and bytes of the recording are; and what stands between the quotes of each
frame text is safe. -/
theorem lines_encode {recording : Recording} {text : String} (written : recording.encode = .ok text)
    (some : recording.frames ≠ []) :
    text.toList.splitOn '\n' =
        (headerLines recording ++ frameLines recording.frames ++ closingLines).map String.toList ∧
      (headerLines recording).length = 12 ∧
      (frameLines recording.frames).length = recording.frames.length ∧
      ∀ frame ∈ recording.frames, ∃ inner,
        FrameText.encode frame.data = FrameText.quote inner ∧ FrameText.Safe inner := by
  obtain ⟨timed, rfl⟩ := encode_eq_ok.mp written
  refine ⟨?_, rfl, ?_, fun frame _ => ⟨_, FrameText.quote_body frame.data, FrameText.safe_body _⟩⟩
  · have whole : ∀ line ∈ headerLines recording ++ frameLines recording.frames ++ ["  ]"],
        OneLine line := by
      simp only [List.forall_mem_append]
      exact ⟨⟨oneLine_headerLines timed.duration, oneLine_frameLines timed.delays⟩,
        List.forall_mem_singleton.mpr (by decide)⟩
    rw [toList_document some, splitOn_ended whole (by decide), List.append_assoc _ ["  ]"]]
    rfl
  · exact length_frameLines recording.frames

/-- Line breaks and stray bytes of the output stay within the line of their frame. -/
theorem lines_encode_break :
    (ofFrames 80 24 [⟨.zero false, [0x0a, 0xff]⟩]).encode =
        .ok (ofFrames 80 24 [⟨.zero false, [0x0a, 0xff]⟩]).document ∧
      ((ofFrames 80 24 [⟨.zero false, [0x0a, 0xff]⟩]).document.toList.splitOn '\n').length = 15 := by
  have written : (ofFrames 80 24 [⟨.zero false, [0x0a, 0xff]⟩]).encode =
      .ok (ofFrames 80 24 [⟨.zero false, [0x0a, 0xff]⟩]).document :=
    encode_timed ⟨by decide, by decide⟩
  obtain ⟨lines, -⟩ := lines_encode written (List.cons_ne_nil _ _)
  refine ⟨written, ?_⟩
  rw [lines]
  rfl

end Recording

end TermTape

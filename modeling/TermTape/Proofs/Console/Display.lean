import TermTape.Console.Control
import TermTape.Proofs.Number.Digits
import TermTape.Proofs.Text.Utf8
import TermTape.Text.Basic

/-!
# Displays

A display is a terminal without bounds that reads bytes: it puts plain characters and obeys the
escape sequences for the place of the cursor, the rest of a line, colours and the visibility of the
cursor. It does for each control as it is written what the control says (`feed_controlBytes`).
-/
namespace TermTape.Console

/-! ## The display -/

/-- The colours that a display puts characters in, by their codes; its own where it was given none. -/
structure Style where
  foreground : Option Nat
  background : Option Nat
  deriving DecidableEq

/-- The colours of the display itself. -/
def Style.usual : Style := ⟨none, none⟩

/-- The style after one parameter of colours. -/
def Style.parameter (style : Style) (n : Nat) : Style :=
  if n = 0 then .usual
  else if 30 ≤ n ∧ n ≤ 37 ∨ 90 ≤ n ∧ n ≤ 97 then { style with foreground := some n }
  else if 40 ≤ n ∧ n ≤ 47 ∨ 100 ≤ n ∧ n ≤ 107 then { style with background := some n }
  else style

/-- What a display shows in one place. -/
structure Glyph where
  char : Char
  style : Style
  deriving DecidableEq

/-- What a display has read of an escape sequence: its parameters before the last in reverse order,
the last, and whether a question mark came before them. -/
inductive Reading where
  | ground
  | escape
  | sequence (marked : Bool) (before : List Nat) (last : Nat)
  deriving DecidableEq

/-- A display: what it shows by rows and columns, the place of its cursor, its style, whether it
shows its cursor, and what it has read of an escape sequence. -/
structure Display where
  glyphs : Nat → Nat → Glyph
  row : Nat
  column : Nat
  style : Style
  shown : Bool
  reading : Reading

namespace Display

/-- The display with its cursor in a place counted from one. -/
def move (display : Display) (row column : Nat) : Display :=
  { display with row := row - 1, column := column - 1 }

/-- The display with blanks of its style from the cursor on. -/
def clearLine (display : Display) : Display :=
  { display with
    glyphs := fun y x =>
      if y = display.row ∧ display.column ≤ x then ⟨' ', display.style⟩ else display.glyphs y x }

/-- The display with a character at its cursor, which moves on. -/
def put (display : Display) (c : Char) : Display :=
  { display with
    glyphs := fun y x =>
      if y = display.row ∧ x = display.column then ⟨c, display.style⟩ else display.glyphs y x
    column := display.column + 1 }

/-- The display after a sequence with its parameters and its last letter; others are ignored. -/
def obey (display : Display) (marked : Bool) (parameters : List Nat) (letter : Char) : Display :=
  match marked, letter, parameters with
  | false, 'H', [row, column] => display.move row column
  | false, 'K', [0] => display.clearLine
  | false, 'm', parameters => { display with style := parameters.foldl Style.parameter display.style }
  | true, 'h', [25] => { display with shown := true }
  | true, 'l', [25] => { display with shown := false }
  | _, _, _ => display

/-- The display after one more character. -/
def read (display : Display) (c : Char) : Display :=
  match display.reading with
  | .ground =>
    if c = '\x1b' then { display with reading := .escape }
    else if controlRanges.holds c then display
    else display.put c
  | .escape => { display with reading := if c = '[' then .sequence false [] 0 else .ground }
  | .sequence marked before last =>
    if c.isDigit then { display with reading := .sequence marked before (10 * last + digitValue c) }
    else if c = ';' then { display with reading := .sequence marked (last :: before) 0 }
    else if c = '?' then { display with reading := .sequence true before last }
    else { display.obey marked (before.reverse ++ [last]) c with reading := .ground }

/-- The display after more bytes, which it reads as characters. -/
def feed (display : Display) (bytes : Bytes) : Display :=
  (Utf8.decodeLossy bytes).foldl read display

/-! ## Controls -/

/-- The display after a control. -/
def after (display : Display) : Control → Display
  | .move row column => { display with row, column }
  | .clearLine => display.clearLine
  | .colours pen => { display with style := ⟨some pen.foreground, some pen.background⟩ }
  | .plain => { display with style := .usual }
  | .showCursor => { display with shown := true }
  | .hideCursor => { display with shown := false }
  | .put c => display.put c

/-- The display after controls. -/
def afterAll (display : Display) (controls : List Control) : Display := controls.foldl after display

theorem afterAll_nil (display : Display) : display.afterAll [] = display := rfl

theorem afterAll_cons (display : Display) (control : Control) (rest : List Control) :
    display.afterAll (control :: rest) = (display.after control).afterAll rest := rfl

theorem afterAll_append (display : Display) (front back : List Control) :
    display.afterAll (front ++ back) = (display.afterAll front).afterAll back :=
  List.foldl_append

end Display

/-- The codes of a pen are those of the sixteen colours. -/
structure Pen.Coded (pen : Pen) : Prop where
  foreground : 30 ≤ pen.foreground ∧ pen.foreground ≤ 37 ∨ 90 ≤ pen.foreground ∧ pen.foreground ≤ 97
  background : 40 ≤ pen.background ∧ pen.background ≤ 47 ∨ 100 ≤ pen.background ∧ pen.background ≤ 107

private theorem colourCode_bounds (plain bright colour : Nat) :
    plain ≤ colourCode plain bright colour ∧ colourCode plain bright colour ≤ plain + 7 ∨
      bright ≤ colourCode plain bright colour ∧ colourCode plain bright colour ≤ bright + 7 := by
  unfold colourCode colourOrder
  split <;> omega

/-- The pen of any attributes has codes of colours. -/
theorem Attributes.coded_pen (attributes : Attributes) : attributes.pen.Coded :=
  ⟨colourCode_bounds 30 90 attributes.foreground, colourCode_bounds 40 100 attributes.background⟩

/-- The two codes of a pen are the style it writes in. -/
theorem Pen.Coded.parameters {pen : Pen} (coded : pen.Coded) (style : Style) :
    [pen.foreground, pen.background].foldl Style.parameter style =
      ⟨some pen.foreground, some pen.background⟩ := by
  obtain ⟨foreground, background⟩ := coded
  have first : pen.foreground ≠ 0 := by omega
  have second : pen.background ≠ 0 := by omega
  have other : ¬ (30 ≤ pen.background ∧ pen.background ≤ 37 ∨
      90 ≤ pen.background ∧ pen.background ≤ 97) := by omega
  simp only [List.foldl_cons, List.foldl_nil, Style.parameter, first, second, foreground, background, other,
    if_true, if_false]

/-- A control that a display reads as it is meant: it has codes of colours, and no character to put
that is a control character. -/
def Control.Legible : Control → Prop
  | .colours pen => pen.Coded
  | .put c => controlRanges.holds c = false
  | _ => True

namespace Display

variable {display : Display}

private theorem read_digits {marked : Bool} {before : List Nat} {digits : List Char} {last : Nat}
    (h : ∀ c ∈ digits, c.isDigit = true) :
    digits.foldl read { display with reading := .sequence marked before last } =
      { display with
        reading := .sequence marked before (digits.foldl (fun n c => 10 * n + digitValue c) last) } := by
  induction digits generalizing last with
  | nil => rfl
  | cons c rest ih =>
    obtain ⟨first, others⟩ := List.forall_mem_cons.mp h
    rw [List.foldl_cons, read]
    simp only [first, if_true]
    exact ih others

/-- The digits of a number are read as the last parameter. -/
theorem read_number (marked : Bool) (before : List Nat) (n : Nat) :
    (digits n).foldl read { display with reading := .sequence marked before 0 } =
      { display with reading := .sequence marked before n } := by
  rw [digits, read_digits fun _ => isDigit_of_mem_toDigits]
  have value := digitsValue_toDigits n
  rw [digitsValue] at value
  rw [value]

private theorem read_opening (ground : display.reading = .ground) (body : List Char) :
    (sequence body).foldl read display =
      body.foldl read { display with reading := .sequence false [] 0 } := by
  obtain ⟨glyphs, row, column, style, shown, reading⟩ := display
  cases ground
  rfl

private theorem read_separator (marked : Bool) (before : List Nat) (last : Nat) :
    { display with reading := .sequence marked before last }.read ';' =
      { display with reading := .sequence marked (last :: before) 0 } :=
  rfl

/-- A letter that ends a sequence. -/
def Ends (letter : Char) : Prop := letter.isDigit = false ∧ letter ≠ ';' ∧ letter ≠ '?'

private theorem read_letter (marked : Bool) (before : List Nat) (last : Nat) {letter : Char}
    (ends : Ends letter) :
    { display with reading := .sequence marked before last }.read letter =
      { display.obey marked (before.reverse ++ [last]) letter with reading := .ground } := by
  obtain ⟨digit, separator, mark⟩ := ends
  simp only [read, digit, separator, mark, if_false, Bool.false_eq_true]
  unfold obey
  split <;> rfl

/-- A sequence of two numbers is obeyed. -/
theorem read_pair (ground : display.reading = .ground) (a b : Nat) {letter : Char} (ends : Ends letter) :
    (sequence (digits a ++ ';' :: digits b ++ [letter])).foldl read display =
      { display.obey false [a, b] letter with reading := .ground } := by
  rw [read_opening ground, List.foldl_append, List.foldl_append, read_number, List.foldl_cons,
    List.foldl_nil, List.foldl_cons, read_separator, read_number, read_letter false [a] b ends]
  rfl

/-- A display does what a control says. -/
theorem read_control (ground : display.reading = .ground) {control : Control}
    (legible : control.Legible) : control.text.foldl read display = display.after control := by
  obtain ⟨glyphs, row, column, style, shown, reading⟩ := display
  cases ground
  cases control with
  | move row column => exact read_pair rfl _ _ ⟨rfl, by decide, by decide⟩
  | colours pen =>
    rw [Control.text, read_pair rfl _ _ ⟨rfl, by decide, by decide⟩]
    simp only [obey, after, legible.parameters]
  | put c =>
    have escape : c ≠ '\x1b' := by
      rintro rfl
      cases legible
    have plain : controlRanges.holds c = false := legible
    simp [Control.text, read, after, escape, plain]
  | _ => rfl

private theorem ground_after (display : Display) (control : Control) :
    (display.after control).reading = display.reading := by
  cases control <;> rfl

theorem read_controls (ground : display.reading = .ground) {controls : List Control}
    (legible : ∀ control ∈ controls, control.Legible) :
    (controlText controls).foldl read display = display.afterAll controls := by
  induction controls generalizing display with
  | nil => rfl
  | cons control rest ih =>
    obtain ⟨first, others⟩ := List.forall_mem_cons.mp legible
    have next : (display.after control).reading = .ground := by rw [ground_after, ground]
    rw [controlText, List.flatMap_cons, List.foldl_append, read_control ground first, afterAll_cons]
    exact ih next others

/-- A display does what controls say, one after another. -/
theorem feed_controlBytes (ground : display.reading = .ground) {controls : List Control}
    (legible : ∀ control ∈ controls, control.Legible) :
    display.feed (controlBytes controls) = display.afterAll controls := by
  have text : Utf8.decodeLossy (controlBytes controls) = controlText controls := by
    rw [Utf8.decodeLossy, controlBytes, Utf8.pieces_encode, List.map_map]
    exact List.map_id _
  rw [feed, text, read_controls ground legible]

end Display

end TermTape.Console

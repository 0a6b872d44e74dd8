/-!
# Characters and fields

A character property is given by inclusive ranges of code points in ascending order, and a mapping of
characters by runs, in which characters at a fixed stride all move by the same distance. Blank
characters are those of the `White_Space` property. Printable characters are those that recorded
output keeps as they are: no control, no blank but the space, no format character and none of a
private-use area. Digits make whole numbers in a base up to sixteen, in either letter case. Fields are
the parts of a list between the elements that separate; there is one more than there are separators.
-/
namespace TermTape

/-! ## Tables -/

/-- Inclusive ranges of code points. -/
abbrev CodeRanges := List (Nat × Nat)

/-- Some range holds the code point of the character. -/
def CodeRanges.holds (ranges : CodeRanges) (c : Char) : Bool :=
  ranges.any fun (first, last) => first ≤ c.toNat && c.toNat ≤ last

/-- The characters from a first to a last one by a stride, and the code point that the first is
mapped to. -/
structure CaseRun where
  first : Nat
  last : Nat
  stride : Nat
  image : Nat

/-- The code point is a member of the run. -/
def CaseRun.holds (run : CaseRun) (code : Nat) : Bool :=
  run.first ≤ code && code ≤ run.last && (code - run.first) % run.stride == 0

/-- A mapping of characters. -/
abbrev CaseRuns := List CaseRun

/-- The character that a mapping gives. -/
def CaseRuns.image? (runs : CaseRuns) (c : Char) : Option Char :=
  (runs.find? fun run => run.holds c.toNat).map fun run =>
    Char.ofNat (run.image + (c.toNat - run.first))

/-! ## Blank characters -/

/-- The ranges of the `White_Space` property. -/
def blankRanges : CodeRanges :=
  [(0x9, 0xd), (0x20, 0x20), (0x85, 0x85), (0xa0, 0xa0), (0x1680, 0x1680), (0x2000, 0x200a),
   (0x2028, 0x2029), (0x202f, 0x202f), (0x205f, 0x205f), (0x3000, 0x3000)]

/-- The character is blank. -/
def isBlank (c : Char) : Bool := blankRanges.holds c

/-- A text without the blanks at both its ends. -/
def trimBlanks (text : List Char) : List Char :=
  ((text.dropWhile isBlank).reverse.dropWhile isBlank).reverse

/-- Every character of the text is blank. -/
def isBlankText (text : String) : Bool := text.toList.all isBlank

/-! ## Printable characters -/

/-- The ranges of the general category of format characters. -/
def formatRanges : CodeRanges :=
  [(0xad, 0xad), (0x600, 0x605), (0x61c, 0x61c), (0x6dd, 0x6dd), (0x70f, 0x70f), (0x890, 0x891),
   (0x8e2, 0x8e2), (0x180e, 0x180e), (0x200b, 0x200f), (0x202a, 0x202e), (0x2060, 0x2064),
   (0x2066, 0x206f), (0xfeff, 0xfeff), (0xfff9, 0xfffb), (0x110bd, 0x110bd), (0x110cd, 0x110cd),
   (0x13430, 0x1343f), (0x1bca0, 0x1bca3), (0x1d173, 0x1d17a), (0xe0001, 0xe0001),
   (0xe0020, 0xe007f)]

/-- The ranges of the general category of private-use characters. -/
def privateRanges : CodeRanges :=
  [(0xe000, 0xf8ff), (0xf0000, 0xffffd), (0x100000, 0x10fffd)]

/-- The ranges of the general category of controls. -/
def controlRanges : CodeRanges := [(0x0, 0x1f), (0x7f, 0x9f)]

/-- The character is printed as it is. -/
def isPrintable (c : Char) : Bool :=
  !(controlRanges.holds c || (isBlank c && c != ' ') || formatRanges.holds c ||
    privateRanges.holds c)

/-! ## Digits -/

/-- The value of a digit in a base up to sixteen, in either letter case. -/
def digitIn? (base : Nat) (c : Char) : Option Nat :=
  let value :=
    if '0' ≤ c && c ≤ '9' then c.toNat - '0'.toNat
    else if 'a' ≤ c && c ≤ 'f' then c.toNat - 'a'.toNat + 10
    else if 'A' ≤ c && c ≤ 'F' then c.toNat - 'A'.toNat + 10
    else base
  if value < base then some value else none

/-- The whole number of digits in a base; no digits are zero. -/
def numberIn? (base : Nat) (digits : List Char) : Option Nat :=
  digits.foldlM (fun n c => (digitIn? base c).map fun d => n * base + d) 0

/-! ## Fields -/

/-- The parts between separators. -/
def splitAt {α : Type} (separates : α → Bool) : List α → List (List α)
  | [] => [[]]
  | x :: rest =>
    if separates x then [] :: splitAt separates rest
    else match splitAt separates rest with
      | [] => [[x]]
      | part :: parts => (x :: part) :: parts

end TermTape

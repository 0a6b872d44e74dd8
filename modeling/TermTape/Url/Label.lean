import TermTape.Text.Basic
import TermTape.Text.Direction
import TermTape.Text.Folding
import TermTape.Text.Joining
import TermTape.Text.NormalForm
import TermTape.Text.Unassigned
import TermTape.Url.Punycode

/-!
# Labels of domain names

The parts of a domain name between its dots. Names are compared by folded texts in normal form
(`foldName?`), so a label that is written in Punycode has to be the writing of such a text. A label
does not begin with a mark, holds joiners only where they change how its letters join, and in a name
with letters that are written to the left keeps to one direction.
-/
namespace TermTape.Url

/-! ## Folded names -/

/-- The ranges of the characters that names leave out. -/
def droppedRanges : CodeRanges :=
  [(0xad, 0xad), (0x34f, 0x34f), (0x115f, 0x1160), (0x17b4, 0x17b5), (0x180b, 0x180f),
   (0x200b, 0x200b), (0x2060, 0x2064), (0x206a, 0x206f), (0x3164, 0x3164), (0xfe00, 0xfe0f),
   (0xfeff, 0xfeff), (0xffa0, 0xffa0), (0x1bca0, 0x1bca3), (0x1d173, 0x1d17a), (0xe0100, 0xe01ef)]

/-- The ranges of the characters that stand in no name, though they are assigned and are neither
controls nor private. -/
def barredRanges : CodeRanges :=
  [(0x600, 0x605), (0x61c, 0x61c), (0x6dd, 0x6dd), (0x70f, 0x70f), (0x890, 0x891), (0x8e2, 0x8e2),
   (0x1680, 0x1680), (0x200e, 0x200f), (0x2024, 0x2026), (0x2028, 0x202e), (0x2066, 0x2069),
   (0x2488, 0x249b), (0x2ff0, 0x2fff), (0x31ef, 0x31ef), (0x33c2, 0x33c2), (0x33c7, 0x33c7),
   (0x33d8, 0x33d8), (0xfe12, 0xfe12), (0xfe19, 0xfe19), (0xfe30, 0xfe30), (0xfe52, 0xfe52),
   (0xfff9, 0xfffd), (0x110bd, 0x110bd), (0x110cd, 0x110cd), (0x13430, 0x1343f), (0x1f100, 0x1f100),
   (0xe0001, 0xe0001), (0xe0020, 0xe007f)]

/-- The character stands in no name. -/
def isBarred (c : Char) : Bool :=
  controlRanges.holds c || privateRanges.holds c || barredRanges.holds c || unassignedRanges.holds c

/-- What a character is in a folded name, or nothing if it stands in no name. -/
def foldNameChar? (c : Char) : Option (List Char) :=
  if c.toNat < 0x80 then some (foldChar c)
  else if droppedRanges.holds c then some []
  else if isBarred c then none
  else some (foldChar c)

/-- A name folded and in normal form, or nothing if a character stands in no name. -/
def foldName? (text : List Char) : Option (List Char) :=
  (text.mapM foldNameChar?).map fun images => normalForm images.flatten

/-- ASCII characters that have a meaning in URLs. -/
def urlSigns : List Char :=
  [' ', '%', '#', '/', ':', '<', '>', '?', '@', '[', '\\', ']', '^', '|']

/-- The character stands in no label, even folded. -/
def isUnnameable (c : Char) : Bool := urlSigns.contains c || controlRanges.holds c

/-! ## Joiners -/

/-- The joiner that keeps letters apart. -/
def nonJoiner : Char := '\u200c'

/-- The joiner that brings letters together. -/
def joiner : Char := '\u200d'

/-- The first character that joins do not pass over has a property. -/
def meets (joins : Char → Bool) (text : List Char) : Bool :=
  (text.dropWhile isPassedByJoins).head?.any joins

/-- A joiner changes the letters around it: those before it, the last first, and those after it. It
follows a sign that silences a vowel, or it keeps apart two letters that would join. -/
def joinerFits (before : List Char) (c : Char) (after : List Char) : Bool :=
  match before with
  | [] => false
  | last :: _ =>
    combiningClass last == silencerClass ||
      (c == nonJoiner && meets joinsAfter before && meets joinsBefore after)

/-- Every joiner of a text fits, after the characters before the text, the last first. -/
def joinersFit (before : List Char) : List Char → Bool
  | [] => true
  | c :: rest =>
    ((c != nonJoiner && c != joiner) || joinerFits before c rest) && joinersFit (c :: before) rest

/-! ## Directions -/

/-- A character makes a name one that is written to the left. -/
def isLeftward (c : Char) : Bool :=
  direction c == .leftward || direction c == .arabicDigit

/-- A label keeps to one direction. It begins with a letter; apart from marks it ends with a letter
of the direction of the first or with a digit that goes with it; it holds no letter of the other
direction and not both kinds of digits. -/
def keepsDirection (label : List Char) : Bool :=
  match label.map direction with
  | [] => true
  | first :: rest =>
    let body := (rest.reverse.dropWhile (· == .mark)).reverse
    match first with
    | .rightward =>
      body.getLast?.all [.rightward, .europeanDigit].contains &&
        !body.contains .leftward && !body.contains .arabicDigit
    | .leftward =>
      body.getLast?.all [.leftward, .europeanDigit, .arabicDigit].contains &&
        !body.contains .rightward &&
        !(body.contains .europeanDigit && body.contains .arabicDigit)
    | _ => false

/-! ## Labels -/

/-- The text is all ASCII. -/
def isAscii (text : List Char) : Bool := text.all (·.toNat < 0x80)

/-- The most characters of a label outside ASCII. -/
def longestLabel : Nat := 1000

/-- The most characters of a label in Punycode, without its opening. -/
def longestCoded : Nat := 2000

/-- The opening of a label in Punycode. -/
def codedMark : List Char := ['x', 'n', '-', '-']

/-- A folded text is a label. -/
def isLabel (text : List Char) : Bool :=
  !text.any isUnnameable && !text.head?.any isMark && joinersFit [] text &&
    (isAscii text || text.length ≤ longestLabel)

/-- The text of a coded label, which is in no need of folding. -/
def decodeLabel? (coded : List Char) : Option (List Char) :=
  if !isAscii coded || coded.getLast?.all (· == '-') || longestCoded < coded.length then none
  else (Punycode.decode? coded).filter fun text => foldName? text == some text

/-- The label of a part of a folded name. -/
def label? (part : List Char) : Option (List Char) :=
  let text? :=
    if codedMark.isPrefixOf part then decodeLabel? (part.drop codedMark.length) else some part
  text?.filter isLabel

/-- A label in ASCII. -/
def asciiLabel (label : List Char) : List Char :=
  if isAscii label then label else codedMark ++ Punycode.encode label

end TermTape.Url

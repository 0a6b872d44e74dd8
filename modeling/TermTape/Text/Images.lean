import TermTape.Text.Basic

/-!
# Tables of images

A mapping of characters to texts, by rows of neighbouring characters. A table is written in lines: a
line has rows between blanks, a row is its first character, a colon and the images of this and the
following characters between commas, and an image is its characters between plus signs. Characters
are written by the hexadecimal digits of their code points.
-/
namespace TermTape

/-- The code points of first characters, each with the images of this and the following ones. -/
abbrev CodeImages := List (Nat × List (List Char))

namespace CodeImages

/-- The image of a character. -/
def image? (rows : CodeImages) (c : Char) : Option (List Char) :=
  rows.findSome? fun (first, images) =>
    if first ≤ c.toNat then images[c.toNat - first]? else none

/-- The characters that have images, with these. -/
def entries (rows : CodeImages) : List (Char × List Char) :=
  rows.flatMap fun (first, images) =>
    images.zipIdx.map fun (image, i) => (Char.ofNat (first + i), image)

/-- The code point of hexadecimal digits. -/
def codePoint (digits : List Char) : Nat := (numberIn? 16 digits).getD 0

/-- The image that a text writes. -/
def readImage (text : List Char) : List Char :=
  (splitAt (· == '+') text).map fun digits => Char.ofNat (codePoint digits)

/-- The row that a text writes. -/
def readRow (text : List Char) : Nat × List (List Char) :=
  let images := (text.dropWhile (· != ':')).drop 1
  (codePoint (text.takeWhile (· != ':')), (splitAt (· == ',') images).map readImage)

/-- The rows that lines write. -/
def ofLines (lines : List String) : CodeImages :=
  lines.flatMap fun line => (splitAt (· == ' ') line.toList).map readRow

end CodeImages
end TermTape

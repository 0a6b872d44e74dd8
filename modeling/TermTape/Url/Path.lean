import TermTape.Text.Basic
import TermTape.Url.Percent

/-!
# Paths of URLs

A path is a list of segments. A segment that is a dot stays where it is, and one that is two dots
goes up; either dot may be an escape. Nothing goes above a segment that names a drive, and in the
`file` scheme the first segment names one by a bar as well as by a colon.
-/
namespace TermTape.Url

/-- A segment with its dots for their escapes. -/
def plainDots : List Char → List Char
  | '%' :: '2' :: 'e' :: rest => '.' :: plainDots rest
  | '%' :: '2' :: 'E' :: rest => '.' :: plainDots rest
  | c :: rest => c :: plainDots rest
  | [] => []

/-- The segment stays where it is. -/
def isHere (segment : List Char) : Bool := plainDots segment == ['.']

/-- The segment goes up. -/
def isUp (segment : List Char) : Bool := plainDots segment == ['.', '.']

/-- The segment is a letter and a colon. -/
def isDrive (segment : List Char) : Bool :=
  match segment with
  | [letter, ':'] => letter.isAlpha
  | _ => false

/-- A segment with the colon of a drive for its bar, if it is a drive. -/
def asDrive (segment : List Char) : List Char :=
  match segment with
  | [letter, '|'] => if letter.isAlpha then [letter, ':'] else segment
  | segment => segment

/-- A path without its last segment, unless that one is a drive. -/
def goUp (path : List (List Char)) : List (List Char) :=
  match path.getLast? with
  | some last => if isDrive (asDrive last) then path else path.dropLast
  | none => []

/-- Segments walked through from a path; a path that ends on a dot ends with an empty segment. With
`drives` the first segment may be a drive. -/
def walk (drives : Bool) (path : List (List Char)) : List (List Char) → List (List Char)
  | [] => path
  | segment :: rest =>
    let ending (path : List (List Char)) := if rest.isEmpty then path ++ [[]] else path
    if isUp segment then walk drives (ending (goUp path)) rest
    else if isHere segment then walk drives (ending path) rest
    else
      let kept := if drives && path.isEmpty then asDrive segment else segment
      walk drives (path ++ [escape pathReserved kept]) rest

/-- A path as a URL shows it. -/
def pathText (path : List (List Char)) : List Char :=
  path.flatMap ('/' :: ·)

end TermTape.Url

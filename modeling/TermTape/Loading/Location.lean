import TermTape.Fault
import TermTape.Url.Reading

/-!
# Locations

Where a recording may be found: in a file, on standard input or at a URL. Locations of two further
schemes are paths on a gateway of the web.
-/
namespace TermTape

/-- Where a recording may be found. -/
inductive Location where
  | file (path : String)
  | standardInput
  | remote (url : Url)
  deriving DecidableEq

namespace Location

/-- The text of a location. -/
def text : Location → String
  | .file path => path
  | .standardInput => "-"
  | .remote url => url.text

/-- The gateway of the web for content by address. -/
def gateway : String := "https://ipfs.io"

/-- The openings of locations on the gateway. -/
def gatewayMarks : List String := ["ipfs:/", "fs:/"]

/-- The openings of locations at a URL. -/
def webMarks : List String := ["http://", "https://"]

/-- The text after one of some openings. -/
def afterMark? (marks : List String) (text : List Char) : Option (List Char) :=
  (marks.find? fun mark => mark.toList.isPrefixOf text).map fun mark => text.drop mark.length

/-- The URL of a path on the gateway. -/
def gatewayText (path : List Char) : String :=
  gateway ++ "/" ++ String.ofList (path.dropWhile (· == '/'))

/-- The location of a URL. -/
def ofUrl (text : String) : Except Fault Location :=
  match Url.read text with
  | .ok url => .ok (.remote url)
  | .error fault => .error (.format (.badUrl text fault))

/-- The location that a text denotes. -/
def read (text : String) : Except Fault Location :=
  if text = "-" then .ok .standardInput
  else match afterMark? gatewayMarks text.toList with
    | some path => ofUrl (gatewayText path)
    | none =>
      if (afterMark? webMarks text.toList).isSome then ofUrl text else .ok (.file text)

end Location
end TermTape

import TermTape.Disk.Basic
import TermTape.Loading.Link
import TermTape.Loading.Location
import TermTape.Web.Network

/-!
# Loading

A recording is loaded from a location. What stands there is the document, or a page, whose link is
followed: a link of a page of the network is one against the URL of the page, and a link of a page
on disk is a location whose paths start in the directory of the page. A page on disk is a file whose
name ends in `.html`. The links that are followed are limited.
-/
namespace TermTape

/-- What locations lead into: a disk, a network and the bytes of standard input. -/
structure World where
  disk : Disk
  network : Network
  input : Except IoError Bytes

/-- What the links of a page are taken against. -/
inductive LinkBase where
  | remote (page : Url)
  | directory (path : String)

/-- What stands at a location. -/
inductive Resource where
  | document (data : Bytes)
  | page (text : List Char) (base : LinkBase)

namespace Loading

/-! ## Paths of pages -/

/-- The last name of a path. -/
def lastName (path : List Char) : List Char :=
  (path.reverse.takeWhile (· != '/')).reverse

/-- The ending of the names of pages. -/
def pageEnding : List Char := ['.', 'h', 't', 'm', 'l']

/-- The path names a page; a name that is nothing but the ending does not. -/
def namesPage (path : String) : Bool :=
  let name := lastName path.toList
  pageEnding.isSuffixOf name && name != pageEnding

/-- A reversed path without the slashes and idle dots at its end. -/
def trimEnd : List Char → List Char
  | '/' :: rest => trimEnd rest
  | '.' :: '/' :: rest => trimEnd rest
  | path => path

/-- The path of the directory that holds a file; none for the directory where paths start. -/
def directoryOf (path : String) : String :=
  let above := trimEnd (path.toList.reverse.dropWhile (· != '/'))
  if above.isEmpty && path.toList.head? == some '/' then "/" else String.ofList above.reverse

/-- A path that starts in a directory. -/
def within (directory path : String) : String :=
  if directory.isEmpty || directory.toList.getLast? == some '/' then directory ++ path
  else directory ++ "/" ++ path

/-! ## Following links -/

/-- What stands at a location. -/
def fetch (world : World) : Location → Except Fault Resource
  | .standardInput =>
    (world.input.mapError (.ioContext "reading standard input")).map .document
  | .file path => do
    let data ← world.disk.contents path
    if namesPage path then .ok (.page (Utf8.decodeLossy data) (.directory (directoryOf path)))
    else .ok (.document data)
  | .remote url => do
    let (final, response) ← (world.network.fetch url).mapError .network
    if response.isPage then .ok (.page (Utf8.decodeLossy response.body) (.remote final))
    else .ok (.document response.body)

/-- The location of a link. -/
def resolve (link : String) : LinkBase → Except Fault Location
  | .remote page =>
    match page.join link with
    | .ok url => .ok (.remote url)
    | .error fault => .error (.format (.badLink link fault))
  | .directory directory => do
    match ← Location.read link with
    | .file path =>
      .ok (.file (if path.toList.head? == some '/' then path else within directory path))
    | location => .ok location

/-- The location that the page at a location links to. -/
def next (location : Location) (text : List Char) (base : LinkBase) : Except Fault Location :=
  match Link.find? text with
  | none => .error (.format (.linkMissing location.text))
  | some link => resolve (String.ofList link) base

/-- The document that a location leads to over at most so many links, or nothing when it takes
more. -/
def follow (world : World) : Nat → Location → Except Fault (Option Bytes)
  | limit, location => do
    match ← fetch world location with
    | .document data => .ok (some data)
    | .page text base =>
      let location ← next location text base
      match limit with
      | 0 => .ok none
      | limit + 1 => follow world limit location

/-- The most links that are followed when nothing else is said. -/
def usualLimit : Nat := 5

/-- The recording that a location leads to over at most so many links. -/
def load (world : World) (limit : Nat) (start : Location) : Except Fault Recording := do
  match ← follow world limit start with
  | some data => (Recording.decode data).mapError .ofDocument
  | none => .error (.format (.tooManyPages limit start.text))

end Loading
end TermTape

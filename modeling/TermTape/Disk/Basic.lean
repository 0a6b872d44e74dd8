import TermTape.Fault
import TermTape.IoError
import TermTape.Recording.Decode
import TermTape.Recording.Write
import TermTape.Text.Basic
import TermTape.Text.Utf8

/-!
# Disks

A tree of directories and files, and the directory in which paths start. A path is a text of names
between slashes; every name but the last has to be a directory, and a path that ends with a slash
means a directory too. Recordings are saved to files and read back; a save first makes an empty file
of its target and then writes the document.
-/
namespace TermTape

/-- What stands in a directory. -/
inductive Node where
  | directory
  | file (data : Bytes)
  deriving DecidableEq

/-- The names from the root to a node. -/
abbrev Place := List (List Char)

/-- The nodes below the root, of which the first at a place counts, and the place where paths
start. -/
structure Disk where
  nodes : List (Place × Node)
  start : Place

namespace Disk

/-- The node at a place. The root is a directory. -/
def node? (disk : Disk) (place : Place) : Option Node :=
  if place.isEmpty then some .directory else disk.nodes.lookup place

/-- The disk with another node at a place. -/
def put (disk : Disk) (place : Place) (node : Node) : Disk :=
  { disk with nodes := (place, node) :: disk.nodes }

/-! ## Paths -/

/-- The name of the directory itself. -/
def here : List Char := ['.']

/-- The name of the directory above. -/
def above : List Char := ['.', '.']

/-- The most bytes of a name. -/
def longestName : Nat := 255

/-- The bytes that no path reaches. -/
def pathBound : Nat := 4096

/-- A name that is not too long. -/
def checkName (name : List Char) : Except IoError Unit :=
  if longestName < (Utf8.encode name).length then .error .nameTooLong else .ok ()

/-- The directory of a name in a directory. -/
def enter (disk : Disk) (place : Place) (name : List Char) : Except IoError Place :=
  if name = here then .ok place
  else if name = above then .ok place.dropLast
  else do
    checkName name
    match disk.node? (place ++ [name]) with
    | none => .error .noSuchFile
    | some (.file _) => .error .notDirectory
    | some .directory => .ok (place ++ [name])

/-- The names of a path. -/
def namesOf (path : String) : List (List Char) :=
  (splitAt (· == '/') path.toList).filter (!·.isEmpty)

/-- The directory in which a path starts: the root if it opens with a slash. -/
def startOf (disk : Disk) (path : String) : Place :=
  if path.toList.head? == some '/' then [] else disk.start

/-- Where a path leads: a directory by the form of the path, or a name in a directory. -/
inductive Target where
  | directory
  | named (directory : Place) (name : List Char) (slashed : Bool)

/-- The target of a path. -/
def target (disk : Disk) (path : String) : Except IoError Target :=
  let chars := path.toList
  let names := namesOf path
  if chars.contains '\x00' then .error .zeroInPath
  else if chars.isEmpty then .error .noSuchFile
  else if pathBound ≤ (Utf8.encode chars).length then .error .nameTooLong
  else match names.getLast? with
    | none => .ok .directory
    | some name => do
      let place ← names.dropLast.foldlM disk.enter (disk.startOf path)
      if name = here ∨ name = above then .ok .directory
      else .ok (.named place name (chars.getLast? == some '/'))

/-! ## Files -/

/-- The bytes of the file at a path. -/
def read (disk : Disk) (path : String) : Except IoError Bytes := do
  match ← disk.target path with
  | .directory => .error .isDirectory
  | .named place name slashed =>
    checkName name
    match disk.node? (place ++ [name]) with
    | none => .error .noSuchFile
    | some .directory => .error .isDirectory
    | some (.file data) => if slashed then .error .notDirectory else .ok data

/-- The place of a file that may be written at a path. -/
def writable (disk : Disk) (path : String) : Except IoError Place := do
  match ← disk.target path with
  | .directory => .error .isDirectory
  | .named place name slashed =>
    if slashed then .error .isDirectory
    else
      checkName name
      match disk.node? (place ++ [name]) with
      | some .directory => .error .isDirectory
      | _ => .ok (place ++ [name])

/-- The directory of a name, which is made if there is none, and the disk with it. -/
def enterNew (spot : Disk × Place) (name : List Char) : Disk × Place :=
  let (disk, place) := spot
  if name = here then (disk, place)
  else if name = above then (disk, place.dropLast)
  else
    let inner := place ++ [name]
    (if (disk.node? inner).isSome then disk else disk.put inner .directory, inner)

/-- The disk with a file at a path, and the directories above it. -/
def plant (disk : Disk) (path : String) (data : Bytes) : Disk :=
  let names := namesOf path
  let (disk, place) := names.dropLast.foldl enterNew (disk, disk.startOf path)
  disk.put (place ++ names.drop (names.length - 1)) (.file data)

/-- A disk with one directory, in which paths start. -/
def blank (name : String) : Disk := ⟨[([name.toList], .directory)], [name.toList]⟩

/-! ## Documents -/

/-- Save a recording at a path. -/
def save (disk : Disk) (path : String) (recording : Recording) : Except Fault Unit × Disk :=
  match disk.writable path with
  | .error cause => (.error (.ioContext ("creating " ++ path) cause), disk)
  | .ok place =>
    match recording.encode with
    | .error fault => (.error (.ofDocument fault), disk.put place (.file []))
    | .ok document => (.ok (), disk.put place (.file (textBytes document)))

/-- The bytes of the file at a path, or a fault that names it. -/
def contents (disk : Disk) (path : String) : Except Fault Bytes :=
  (disk.read path).mapError (.ioContext ("reading " ++ path))

/-- The recording saved at a path. -/
def load (disk : Disk) (path : String) : Except Fault Recording := do
  (Recording.decode (← disk.contents path)).mapError .ofDocument

end Disk
end TermTape

import Worktop.FileSystem.Error
import Worktop.Path
import Worktop.Text.Utf8

/-!
# File systems

A tree of directories and files, held as a list of places.  A place is the list of names from the
root; `node?` is the view that everything else goes through.  A file has an identity that a new
file under the same name does not share.
-/

namespace Worktop

/-- What stands at a place. -/
inductive Node where
  | directory
  | file (id : Nat) (bytes : List UInt8)
  deriving DecidableEq, Repr

/-- A tree of files, and the directory that relative paths start from. -/
structure FileSystem where
  here : List String := []
  nodes : List (List String × Node) := []
  nextId : Nat := 0
  deriving DecidableEq, Repr

namespace FileSystem

/-- What stands at a place; the root is always a directory. -/
def node? (fs : FileSystem) (place : List String) : Option Node :=
  if place.isEmpty then some .directory else (fs.nodes.find? (·.1 = place)).map (·.2)

/-- The longest name of a file, and one more than the longest path, in bytes. -/
def nameLimit : Nat := 255

@[inherit_doc nameLimit]
def pathLimit : Nat := 4096

/-- Follows segments from a place.  Whatever a segment is looked up in must be a directory. -/
def walk (fs : FileSystem) (place : List String) : List String → Except SystemError (List String)
  | [] => .ok place
  | s :: rest =>
    match fs.node? place with
    | none => .error .notFound
    | some (.file ..) => .error .notDirectory
    | some .directory =>
      if s = "" ∨ s = "." then fs.walk place rest
      else if s = ".." then fs.walk place.dropLast rest
      else if nameLimit < s.utf8ByteSize then .error .nameTooLong
      else fs.walk (place ++ [s]) rest

/-- The place of some segments of a path; nothing need stand there. -/
def locateSegments (fs : FileSystem) (path : String) (segments : List String) :
    Except SystemError (List String) :=
  if path.isEmpty then .error .notFound
  else if path.toList.contains '\x00' then .error .nulInPath
  else if pathLimit ≤ path.utf8ByteSize then .error .nameTooLong
  else fs.walk (if Path.isAbsolute path then [] else fs.here) segments

/-- The place that a path means; nothing need stand there. -/
def locate (fs : FileSystem) (path : String) : Except SystemError (List String) :=
  fs.locateSegments path (Path.segments path)

/-- The place that a path means and what stands there. -/
def find (fs : FileSystem) (path : String) : Except SystemError (List String × Node) := do
  let place ← fs.locate path
  match fs.node? place with
  | some node => .ok (place, node)
  | none => .error .notFound

/-- Whether something stands at a path. -/
def pathExists (fs : FileSystem) (path : String) : Bool :=
  (fs.find path).isOk

/-- Whether a directory stands at a path. -/
def isDirectory (fs : FileSystem) (path : String) : Bool :=
  match fs.find path with
  | .ok (_, .directory) => true
  | _ => false

/-- The bytes of a file. -/
def read (fs : FileSystem) (path : String) : Except SystemError (List UInt8) :=
  match fs.find path with
  | .ok (_, .file _ bytes) => .ok bytes
  | .ok (_, .directory) => .error .isDirectory
  | .error e => .error e

/-- The text of a file. -/
def readText (fs : FileSystem) (path : String) : Except SystemError String := do
  match Text.Utf8.text? (← fs.read path) with
  | some text => .ok text
  | none => .error .notText

/-- Puts a node at a place, in the stead of what stood there. -/
def put (fs : FileSystem) (place : List String) (node : Node) : FileSystem :=
  { fs with nodes := fs.nodes.filter (·.1 ≠ place) ++ [(place, node)] }

/-- Empty directories from the root down to a place, which relative paths start from. -/
def startingIn (here : List String) : FileSystem :=
  { here, nodes := (List.range here.length).map fun n => (here.take (n + 1), .directory) }

/-- The names from one place down to another below it. -/
def namesBelow? (place below : List String) : Option (List String) :=
  if place.isPrefixOf below && place.length < below.length then some (below.drop place.length)
  else none

/-- A place below the current directory as a relative path; a directory ends in a slash. -/
def listingEntry? (fs : FileSystem) (entry : List String × Node) : Option String :=
  (namesBelow? fs.here entry.1).map fun names =>
    match entry.2 with
    | .directory => Text.joinWith "/" names ++ "/"
    | .file .. => Text.joinWith "/" names

/-- Everything below the current directory as relative paths, in the order of the texts. -/
def listing (fs : FileSystem) : List String :=
  (fs.nodes.filterMap fs.listingEntry?).mergeSort fun p q => decide (p ≤ q)

end FileSystem

end Worktop

import Worktop.FileSystem.Basic

/-!
# Changing a file system

Every operation gives the file system after it, also where it fails: making a directory with its
parents may get half way.
-/

namespace Worktop.FileSystem

/-- Makes one directory. -/
def makeDirectory (fs : FileSystem) (path : String) : Except SystemError FileSystem := do
  let trimmed := ((Path.segments path).reverse.dropWhile (· = "")).reverse
  let place ← fs.locateSegments path trimmed
  match fs.node? place with
  | some _ => .error .alreadyExists
  | none => .ok (fs.put place .directory)

/-- Makes the first of some paths a directory, where each path but the last stands in the next. -/
def makeAlong : List String → FileSystem → Except SystemError Unit × FileSystem
  | [], fs => (.ok (), fs)
  | path :: above, fs =>
    if path = "" then (.ok (), fs)
    else
      match fs.makeDirectory path with
      | .ok fs => (.ok (), fs)
      | .error .notFound =>
        match makeAlong above fs with
        | (.error e, fs) => (.error e, fs)
        | (.ok (), fs) =>
          match fs.makeDirectory path with
          | .ok fs => (.ok (), fs)
          | .error e => (if fs.isDirectory path then .ok () else .error e, fs)
      | .error e => (if fs.isDirectory path then .ok () else .error e, fs)

/-- Makes a directory and those above it, unless they are there. -/
def makeDirectories (fs : FileSystem) (path : String) : Except SystemError Unit × FileSystem :=
  makeAlong (path :: Path.parents path) fs

/-- Puts a new file with some bytes at a place. -/
def newFile (fs : FileSystem) (place : List String) (bytes : List UInt8) : FileSystem :=
  { fs.put place (.file fs.nextId bytes) with nextId := fs.nextId + 1 }

/-- Opens a file for reading and writing, and makes it if nothing is there: its identity. -/
def openFile (fs : FileSystem) (path : String) : Except SystemError (Nat × FileSystem) := do
  let place ← fs.locateSegments path (Path.segments path)
  match fs.node? place with
  | some (.file id _) => .ok (id, fs)
  | some .directory => .error .isDirectory
  | none => .ok (fs.nextId, fs.newFile place [])

/-- Gives a file the bytes that `change` makes of those it has, or of none if nothing is there. -/
def changeFile (fs : FileSystem) (path : String) (change : List UInt8 → List UInt8) :
    Except SystemError FileSystem := do
  let place ← fs.locate path
  match fs.node? place with
  | some (.file id bytes) => .ok (fs.put place (.file id (change bytes)))
  | some .directory => .error .isDirectory
  | none => .ok (fs.newFile place (change []))

/-- Gives a file other bytes, and makes it if nothing is there. -/
def write (fs : FileSystem) (path : String) (bytes : List UInt8) : Except SystemError FileSystem :=
  fs.changeFile path fun _ => bytes

/-- Adds bytes to the end of a file, and makes it if nothing is there. -/
def append (fs : FileSystem) (path : String) (bytes : List UInt8) :
    Except SystemError FileSystem :=
  fs.changeFile path (· ++ bytes)

/-- Removes what stands at a path, with everything below it. -/
def remove (fs : FileSystem) (path : String) : Except SystemError FileSystem := do
  let (place, _) ← fs.find path
  .ok { fs with nodes := fs.nodes.filter fun entry => !place.isPrefixOf entry.1 }

end Worktop.FileSystem

import Worktop.FileSystem.Edit

/-!
# Changes to a file system as data
-/

namespace Worktop.FileSystem

/-- A change to a file system.  Directories on the way to what is made are made too. -/
inductive Change where
  | makeDirectory (path : String)
  | write (path : String) (bytes : List UInt8)
  | remove (path : String)
  deriving DecidableEq, Repr

/-- The file system after a change; one that cannot be made, as the removal of what is not there,
leaves it alone. -/
def change (fs : FileSystem) : Change → FileSystem
  | .makeDirectory path => (fs.makeDirectories path).2
  | .write path bytes =>
    let fs :=
      match Path.parent? path with
      | some parent => (fs.makeDirectories parent).2
      | none => fs
    (fs.write path bytes).toOption.getD fs
  | .remove path => (fs.remove path).toOption.getD fs

/-- The file system after some changes. -/
def changeAll (fs : FileSystem) (changes : List Change) : FileSystem :=
  changes.foldl change fs

end Worktop.FileSystem

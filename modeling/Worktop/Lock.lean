import Worktop.Branch.Handle
import Worktop.FileSystem.Edit

/-!
# Branch locks

One operation on a branch at a time.  A table keeps out other users of the same table, and, if it
has a directory, users of other tables with that directory by an exclusive lock on a file there.
Both are keyed by the handle of the branch.  Lock files stay when a lock is given up.
-/

namespace Worktop

/-- A table of locks; tables are told apart by `id`. -/
structure LockTable where
  id : Nat := 0
  directory : Option String := none
  deriving DecidableEq, Repr

/-- A lock that is held: its table and key, and the lock file, if the table has a directory. -/
structure Guard where
  table : Nat
  key : String
  file : Option Nat
  deriving DecidableEq, Repr

/-- All that is locked: keys in tables, and files. -/
structure Locks where
  held : List (Nat × String) := []
  files : List Nat := []
  deriving DecidableEq, Repr

/-- Why a lock was not given. -/
inductive LockError where
  | busy (branch : String)
  | io (text : String)
  deriving DecidableEq, Repr

/-- The text of an error. -/
def LockError.message : LockError → String
  | busy branch => s!"Another operation on branch '{branch}' is in progress"
  | io text => s!"Lock IO error: {text}"

namespace Locks

/-- Takes the lock file of a key, if the table has a directory. -/
def takeFile (locks : Locks) (fs : FileSystem) (table : LockTable) (branch key : String) :
    Except LockError (Option Nat) × Locks × FileSystem :=
  match table.directory with
  | none => (.ok none, locks, fs)
  | some directory =>
    match fs.makeDirectories directory with
    | (.error e, fs) => (.error (.io e.message), locks, fs)
    | (.ok (), fs) =>
      let path := Path.join directory (key ++ ".lock")
      match fs.openFile path with
      | .error e => (.error (.io s!"{path}: {e.message}"), locks, fs)
      | .ok (file, fs) =>
        if file ∈ locks.files then (.error (.busy branch), locks, fs)
        else (.ok (some file), { locks with files := file :: locks.files }, fs)

/-- Takes the lock of a branch: first the key in the table, then the file.  Where the file cannot be
had the key is given back. -/
def acquire (locks : Locks) (fs : FileSystem) (table : LockTable) (branch : String) :
    Except LockError Guard × Locks × FileSystem :=
  let key := Branch.handle branch
  let slot := (table.id, key)
  if slot ∈ locks.held then (.error (.busy branch), locks, fs)
  else
    match { locks with held := slot :: locks.held }.takeFile fs table branch key with
    | (.ok file, locks, fs) => (.ok { table := table.id, key, file }, locks, fs)
    | (.error e, locks, fs) => (.error e, { locks with held := locks.held.erase slot }, fs)

/-- Gives a lock up. -/
def release (locks : Locks) (guard : Guard) : Locks where
  held := locks.held.erase (guard.table, guard.key)
  files := match guard.file with
    | some file => locks.files.erase file
    | none => locks.files

end Locks

end Worktop

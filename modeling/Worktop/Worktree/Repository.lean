import Worktop.Session
import Worktop.Worktree.Listing
import Worktop.Workspace

/-!
# Repositories

Branches and worktrees of a repository, through git.  Nothing is kept between two calls: each asks
git anew.
-/

namespace Worktop

namespace Worktree

/-- Why git, or the file system, did not do something. -/
inductive Error where
  | branchExists (branch : String)
  | pathConflict (path : String)
  | notFound (what : String)
  | dirtyWorktree (path : String)
  | branchNotMerged (branch : String)
  | invalidBranchName (branch : String)
  | notARepository (path : String)
  | gitFailed (operation stderr : String)
  | io (reason : SystemError)
  | spawn (error : SpawnError)
  deriving DecidableEq, Repr

/-- The text of an error. -/
def Error.message : Error → String
  | branchExists branch => s!"Branch already exists: {branch}"
  | pathConflict path => s!"Path already exists and is not a worktree of this branch: {path}"
  | notFound what => s!"Not found: {what}"
  | dirtyWorktree path =>
    s!"Worktree has uncommitted or untracked changes: {path} (use --force)"
  | branchNotMerged branch => s!"Branch is not fully merged: {branch} (use --force)"
  | invalidBranchName branch => s!"Invalid branch name: {branch}"
  | notARepository path => s!"Not a git repository: {path}"
  | gitFailed operation stderr => s!"Git {operation} failed: {stderr}"
  | io reason => s!"IO error: {reason.message}"
  | spawn error => error.message

/-- An act on a repository, which may fail. -/
abbrev Result (ω : Type) := ExceptT Error (Act ω)

variable {ω : Type}

/-- A git command in a directory. -/
def git (directory : String) (args : List String) : Command where
  program := "git"
  args := args
  directory := some directory

/-- Runs a command, whatever its exit code. -/
def exec (command : Command) : Result ω Output := do
  match ← ExceptT.lift (Act.exec command) with
  | .ok output => pure output
  | .error e => throw (.spawn e)

/-- The worktrees of the repository that a directory is in. -/
def listFrom (directory : String) : Result ω (List Entry) := do
  let output ← exec (git directory ["worktree", "list", "--porcelain"])
  if output.success then pure (entriesOfListing output.stdout)
  else throw (.notARepository directory)

/-- The main worktree of the repository that a directory is in. -/
def mainRoot (directory : String) : Result ω String := do
  match (← listFrom directory).find? (·.isMain) with
  | some entry => pure entry.path
  | none => throw (.notARepository directory)

end Worktree

/-- A repository: its main worktree, and the directory for other worktrees. -/
structure Repository where
  root : String
  base : String
  deriving DecidableEq, Repr

namespace Repository

open Worktree (Error Entry Result exec)

variable {ω : Type}

/-- A git command in the main worktree. -/
def git (r : Repository) (args : List String) : Command :=
  Worktree.git r.root args

/-- Where the worktree of a branch goes. -/
def worktreePath (r : Repository) (branch : String) : String :=
  Workspace.worktreePathOf r.base branch

/-- The directory that all worktrees share. -/
def commonDirectory (r : Repository) : Result ω String := do
  let output ← exec (r.git ["rev-parse", "--git-common-dir"])
  if output.success then pure (Path.join r.root (Text.trim output.stdout))
  else throw (.notARepository r.root)

/-- Forgets the worktrees whose directories are gone. -/
def prune (r : Repository) : Result ω Unit := do
  let output ← exec (r.git ["worktree", "prune"])
  if !output.success then throw (.gitFailed "worktree prune" output.complaint)

/-- The worktrees, the main one first. -/
def list (r : Repository) : Result ω (List Entry) :=
  Worktree.listFrom r.root

/-- The first worktree that has a branch checked out. -/
def findWorktree (r : Repository) (branch : String) : Result ω (Option Entry) := do
  pure ((← r.list).find? (·.branch = some branch))

/-- Whether there is a branch of a name. -/
def branchExists (r : Repository) (branch : String) : Result ω Bool := do
  let output ← exec (r.git ["show-ref", "--quiet", "--verify", "refs/heads/" ++ branch])
  pure output.success

/-- Whether git takes a text for the name of a branch. -/
def validateBranchName (r : Repository) (branch : String) : Result ω Unit := do
  if Text.isBlankText branch || branch.toList.head? = some '-' then
    throw (.invalidBranchName branch)
  let output ← exec (r.git ["check-ref-format", "--branch", branch])
  if !output.success then throw (.invalidBranchName branch)

/-- Why no worktree was added, from what git says. -/
def addError (branch path complaint : String) : Error :=
  if Text.occurs "a branch named" complaint && Text.occurs "already exists" complaint then
    .branchExists branch
  else if Text.occurs "already exists" complaint then .pathConflict path
  else .gitFailed "worktree add" complaint

/-- Makes a branch and its worktree, at a path where nothing stands. -/
def create (r : Repository) (branch : String) : Result ω String := do
  if ← r.branchExists branch then throw (.branchExists branch)
  let path := r.worktreePath branch
  if ← ExceptT.lift (Act.pathExists path) then
    let _ ← r.list
    throw (.pathConflict path)
  match ← ExceptT.lift (Act.makeDirectories r.base) with
  | .error e => throw (.io e)
  | .ok () => pure ()
  let output ← exec (r.git ["worktree", "add", "-b", branch, path])
  if output.success then pure path
  else throw (addError branch path output.complaint)

/-- Why a worktree was not removed, from what git says. -/
def removeError (path complaint : String) : Error :=
  if Text.occurs "contains modified or untracked files" complaint
      || Text.occurs "use --force" complaint then .dirtyWorktree path
  else .gitFailed "worktree remove" complaint

/-- Removes the worktree of a branch, or only git's memory of it where its directory is gone. -/
def remove (r : Repository) (branch : String) (force : Bool) : Result ω Unit := do
  match ← r.findWorktree branch with
  | none => throw (.notFound s!"worktree for branch '{branch}'")
  | some entry =>
    if entry.isMain then
      throw (.gitFailed "worktree remove" s!"'{entry.path}' is the main worktree")
    if ← ExceptT.lift (Act.pathExists entry.path) then
      let flags := if force then ["--force"] else []
      let output ← exec (r.git (["worktree", "remove"] ++ flags ++ [entry.path]))
      if !output.success then throw (removeError entry.path output.complaint)
    else
      r.prune

/-- Deletes a branch, with `force` even if its commits are on no other. -/
def deleteBranch (r : Repository) (branch : String) (force : Bool) : Result ω Unit := do
  if !(← r.branchExists branch) then throw (.notFound s!"branch '{branch}'")
  let flag := if force then "-D" else "-d"
  let output ← exec (r.git ["branch", flag, branch])
  if !output.success then
    if Text.occurs "not fully merged" output.complaint then throw (.branchNotMerged branch)
    else throw (.gitFailed "branch delete" output.complaint)

end Repository

end Worktop

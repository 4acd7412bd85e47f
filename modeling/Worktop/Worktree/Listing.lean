import Worktop.Text.Blank
import Worktop.Text.Lines

/-!
# Listings of worktrees

`git worktree list --porcelain` prints a block of lines for each worktree, the main one first.
-/

namespace Worktop.Worktree

/-- A worktree in a listing.  One that has no branch checked out has none. -/
structure Entry where
  path : String
  head : Option String := none
  branch : Option String := none
  isMain : Bool := false
  prunable : Bool := false
  deriving DecidableEq, Repr

namespace Listing

/-- The short name of a branch. -/
def shortBranch (reference : String) : String :=
  (Text.dropLead? "refs/heads/" reference).getD reference

/-- The key of a line and its value, with a blank between them. -/
def keyed (line : String) : String × String :=
  (Text.splitFirst? ' ' line).getD (line, "")

/-- What a line says of the worktree it is about. -/
def describe (entry : Entry) (key value : String) : Entry :=
  if key = "HEAD" then { entry with head := some value }
  else if key = "branch" then { entry with branch := some (shortBranch value) }
  else if key = "prunable" then { entry with prunable := true }
  else entry

/-- The worktrees that lines list, after the one that `current` has begun.  The next to begin is
the main one if `first` holds and none has begun. -/
def entriesFrom (first : Bool) (current : Option Entry) : List String → List Entry
  | [] => current.toList
  | line :: rest =>
    let line := Text.trimEnd line
    let first' := first && current.isNone
    if line = "" then current.toList ++ entriesFrom first' none rest
    else
      let (key, value) := keyed line
      if key = "worktree" then
        current.toList ++ entriesFrom first' (some { path := value, isMain := first' }) rest
      else entriesFrom first (current.map (describe · key value)) rest

end Listing

/-- The worktrees that a text lists. -/
def entriesOfListing (listing : String) : List Entry :=
  Listing.entriesFrom true none (Text.lines listing)

end Worktop.Worktree

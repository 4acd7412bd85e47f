import Worktop.Branch.Handle
import Worktop.Path

/-!
# Workspaces

What belongs to a branch is named after the branch alone: nothing is remembered, and what exists is
asked of git and of the multiplexer each time.
-/

namespace Worktop

/-- The workspace of a branch. -/
structure Workspace where
  branch : String
  worktreePath : String
  windowName : String
  deriving DecidableEq, Repr

namespace Workspace

/-- The name of the window of a branch: its handle behind a prefix. -/
def windowNameOf (windowPrefix branch : String) : String :=
  windowPrefix ++ Branch.handle branch

/-- Where the worktree of a branch goes. -/
def worktreePathOf (base branch : String) : String :=
  Path.join base (Branch.handle branch)

/-- Where worktrees go unless configured: beside the repository, in a directory named after it. -/
def defaultBase (repository : String) : String :=
  Path.join ((Path.parent? repository).getD repository)
    ((Path.name? repository).getD "repo" ++ "__worktrees")

/-- The variables that a workspace passes on to its hooks and panes. -/
def env (w : Workspace) : List (String × String) :=
  [("TIDYMUX_BRANCH", w.branch), ("TIDYMUX_WORKTREE", w.worktreePath)]

end Workspace

end Worktop

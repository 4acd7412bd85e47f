import Worktop.Lifecycle.Basic

/-!
# The list of workspaces

What git knows of worktrees, put together with what the multiplexer knows of windows.
-/

namespace Worktop.Lifecycle

variable {ω : Type}

/-- A worktree, and whether its branch has a window. -/
structure Summary where
  branch : Option String
  path : String
  windowName : Option String
  hasWindow : Bool
  prunable : Bool
  deriving DecidableEq, Repr

/-- The summary of a worktree, given the names of all windows. -/
def summarize (windowPrefix : String) (windows : List String) (entry : Worktree.Entry) :
    Summary :=
  let windowName := entry.branch.map (Workspace.windowNameOf windowPrefix)
  { branch := entry.branch, path := entry.path, windowName,
    hasWindow := (windowName.map windows.contains).getD false, prunable := entry.prunable }

/-- All worktrees but the main one.  A multiplexer that does not answer has no windows. -/
def list (setup : Setup) : Worktree.Result ω (List Summary) := do
  let windows ←
    match ← ExceptT.lift setup.mux.listWindows.run with
    | .ok names => pure names
    | .error _ => pure []
  let entries ← setup.repository.list
  pure ((entries.filter (!·.isMain)).map (summarize setup.windowPrefix windows))

end Worktop.Lifecycle

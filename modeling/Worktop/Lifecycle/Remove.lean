import Worktop.Lifecycle.Basic

/-!
# Removing and closing a workspace

A removal takes the window, the worktree and the branch away, each where it exists and in this
order, and does not stop where one of them stays.  Closing takes away the window alone.
-/

namespace Worktop.Lifecycle

variable {ω : Type}

namespace Remove

/-- An error that arose before anything was removed. -/
def rejection (cause : Cause) : Error :=
  { phase := .remove .validating, kind := .validation, cause }

/-- An error of a step of the removal. -/
def failedIn (state : RemoveState) (cause : Cause) : Error :=
  { phase := .remove state, kind := .teardown, cause }

/-- What one step came to: something removed, an error, or neither if it was gone already. -/
structure Progress where
  removed : List Resource := []
  errors : List Error := []
  deriving DecidableEq, Repr

/-- One step after another. -/
def Progress.append (p q : Progress) : Progress where
  removed := p.removed ++ q.removed
  errors := p.errors ++ q.errors

/-- Destroys the window. -/
def destroyWindow (setup : Setup) (name : String) : Act ω Progress := do
  match ← (setup.mux.destroyWindow name).run with
  | .ok () => pure { removed := [.window name] }
  | .error (.windowNotFound _) => pure {}
  | .error e => pure { errors := [failedIn .destroyingWindow (.mux e)] }

/-- Removes the worktree. -/
def removeWorktree (setup : Setup) (branch path : String) (force : Bool) : Act ω Progress := do
  match ← (setup.repository.remove branch force).run with
  | .ok () => pure { removed := [.worktree branch path] }
  | .error (.notFound _) => pure {}
  | .error e => pure { errors := [failedIn .removingWorktree (.worktree e)] }

/-- Deletes the branch. -/
def deleteBranch (setup : Setup) (branch : String) (force : Bool) : Act ω Progress := do
  match ← (setup.repository.deleteBranch branch force).run with
  | .ok () => pure { removed := [.branch branch] }
  | .error (.notFound _) => pure {}
  | .error e => pure { errors := [failedIn .deletingBranch (.worktree e)] }

/-- Takes away what was seen of a workspace: its window, its worktree and its branch. -/
def tearDown (setup : Setup) (workspace : Workspace) (force window : Bool)
    (worktree : Option Worktree.Entry) (branch : Bool) : Act ω Progress := do
  let first ← if window then destroyWindow setup workspace.windowName else pure {}
  let second ←
    match worktree with
    | some entry => removeWorktree setup workspace.branch entry.path force
    | none => pure {}
  let third ← if branch then deleteBranch setup workspace.branch force else pure {}
  pure ((first.append second).append third)

/-- A workspace is taken apart in three steps. -/
theorem tearDown_eq (setup : Setup) (workspace : Workspace) (force window present : Bool)
    (worktree : Option Worktree.Entry) :
    (tearDown setup workspace force window worktree present : Act ω Progress) =
      (if window then destroyWindow setup workspace.windowName else pure {}) >>= fun first =>
        (match worktree with
          | some entry => removeWorktree setup workspace.branch entry.path force
          | none => pure {}) >>= fun second =>
          (if present then deleteBranch setup workspace.branch force else pure {}) >>= fun third =>
            pure ((first.append second).append third) := by
  cases window <;> cases worktree <;> cases present <;> rfl

/-- The worktree of a branch, and whether the branch exists. -/
def lookUp (setup : Setup) (branch : String) :
    Worktree.Result ω (Option Worktree.Entry × Bool) := do
  let entry ← setup.repository.findWorktree branch
  let branchExists ← setup.repository.branchExists branch
  pure (entry, branchExists)

/-- Removes a workspace, under the lock of its branch held by the caller. -/
def removeLocked (setup : Setup) (workspace : Workspace) (force : Bool) :
    Act ω (Outcome RemoveState) := do
  let failed (errors : List Error) : Outcome RemoveState := { state := .failed, workspace, errors }
  match ← (lookUp setup workspace.branch).run with
  | .error e => pure (failed [rejection (.worktree e)])
  | .ok (entry, branch) =>
    if (entry.map (·.isMain)).getD false then
      pure (failed [rejection (.mainWorktree workspace.branch)])
    else
      let (window, warnings) ←
        match ← (setup.mux.windowExists workspace.windowName).run with
        | .ok found => pure (found, [])
        | .error e =>
          pure (false,
            [{ phase := .remove .validating, kind := .teardown, cause := .mux e : Error }])
      if entry.isNone && !branch && !window then
        pure { failed [rejection (.notFound workspace.branch)] with warnings }
      else
        let progress ← tearDown setup workspace force window entry branch
        let succeeded := progress.errors.isEmpty
        pure { state := if succeeded then .done else .failed, workspace, succeeded,
               removed := progress.removed, errors := progress.errors, warnings }

end Remove

/-- Removes the workspace of a branch, with `force` even where that loses work. -/
def remove (setup : Setup) (branch : String) (force : Bool) : Act ω (Outcome RemoveState) := do
  let workspace := setup.workspace branch
  match ← Act.acquire setup.lockTable branch with
  | .error e =>
    pure { state := .failed, workspace, errors := [Remove.rejection (.lock e)] }
  | .ok guard =>
    let outcome ← Remove.removeLocked setup workspace force
    Act.release guard
    pure outcome

/-- Destroys the window of a workspace, under the lock of its branch held by the caller. -/
def closeLocked (setup : Setup) (branch : String) : ExceptT Error (Act ω) Unit := do
  match ← ExceptT.lift (setup.mux.destroyWindow (setup.workspace branch).windowName).run with
  | .ok () => pure ()
  | .error (.windowNotFound _) =>
    throw { phase := .close, kind := .validation, cause := .notFound branch }
  | .error e => throw { phase := .close, kind := .teardown, cause := .mux e }

/-- Destroys the window of the workspace of a branch. -/
def close (setup : Setup) (branch : String) : ExceptT Error (Act ω) Unit := do
  match ← ExceptT.lift (Act.acquire setup.lockTable branch) with
  | .error e => throw { phase := .close, kind := .validation, cause := .lock e }
  | .ok guard =>
    let result ← ExceptT.lift (closeLocked setup branch).run
    ExceptT.lift (Act.release guard)
    ExceptT.mk (pure result)

end Worktop.Lifecycle

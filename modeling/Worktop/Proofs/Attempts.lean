import Worktop.Proofs.Journal

/-! # Attempts to take things away

A window, a worktree and a branch are taken away by one operation each, whose answer tells what
became of it (`Worktop.Lifecycle.Remove.attempt`). Attempts are made one after another, whatever
came of those before (`Worktop.Lifecycle.Remove.attemptAll`): so a removal takes a workspace apart,
and so an addition that failed undoes what it made.
-/

namespace Worktop.Lifecycle.Remove

open Act hiding gives_lift_bind

variable {ω : Type} {setup : Setup} {force : Bool}

/-- What becomes of a resource that is to be taken away. -/
inductive Fate where
  | removed
  | missing
  | remains (cause : Cause)
  deriving DecidableEq, Repr

/-- The answer of a multiplexer that was to take a window away. -/
def Fate.ofMux : Except Mux.Error Unit → Fate
  | .ok () => .removed
  | .error (.windowNotFound _) => .missing
  | .error e => .remains (.mux e)

/-- The answer of git that was to take a worktree or a branch away. -/
def Fate.ofGit : Except Worktree.Error Unit → Fate
  | .ok () => .removed
  | .error (.notFound _) => .missing
  | .error e => .remains (.worktree e)

/-- What remains is an error; what is gone is none, whether or not it was still there. -/
def Fate.toExcept : Fate → Except Cause Unit
  | .removed | .missing => .ok ()
  | .remains cause => .error cause

/-- Tries to take a resource away.  Panes go with their window. -/
def attempt (setup : Setup) (force : Bool) : Resource → Act ω Fate
  | .window name => do pure (.ofMux (← (setup.mux.destroyWindow name).run))
  | .worktree branch _ => do pure (.ofGit (← (setup.repository.remove branch force).run))
  | .branch name => do pure (.ofGit (← (setup.repository.deleteBranch name force).run))
  | .pane .. => pure .missing

/-- Tries to take resources away, one after another, whatever becomes of each. -/
def attemptAll (setup : Setup) (force : Bool) : List Resource → Act ω (List (Resource × Fate))
  | [] => pure []
  | resource :: rest => do
    let fate ← attempt setup force resource
    let others ← attemptAll setup force rest
    pure ((resource, fate) :: others)

theorem attemptAll_append (first rest : List Resource) :
    (attemptAll setup force (first ++ rest) : Act ω _) =
      attemptAll setup force first >>= fun attempts =>
        attemptAll setup force rest >>= fun others => pure (attempts ++ others) := by
  induction first with
  | nil => simp [attemptAll]
  | cons resource first ih => simp [attemptAll, ih]

theorem attemptAll_order (setup : Setup) (force : Bool) (resources : List Resource) :
    Gives (attemptAll setup force resources : Act ω _) fun attempts =>
      attempts.map Prod.fst = resources := by
  induction resources with
  | nil => exact fun _ _ => rfl
  | cons resource rest ih =>
    unfold attemptAll
    refine gives_bind fun fate => ih.bind fun others same => ?_
    exact fun _ _ => congrArg (resource :: ·) same

theorem order_of_attempted {resources : List Resource} {attempts : List (Resource × Fate)}
    {host : Host ω} {s s' : Session ω}
    (attempted : (attemptAll setup force resources).perform host s = (attempts, s')) :
    attempts.map Prod.fst = resources := by
  have order := attemptAll_order setup force resources host s
  rwa [attempted] at order

end Worktop.Lifecycle.Remove

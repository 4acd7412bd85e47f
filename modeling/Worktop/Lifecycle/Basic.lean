import Worktop.Config.Basic
import Worktop.Hook
import Worktop.Mux.Multiplexer
import Worktop.Poll
import Worktop.Shell.Login
import Worktop.Worktree.Repository

/-!
# Lifecycles

What the operations on workspaces work with, and what they tell: the phase and the cause of each
error, what was made and what was removed.
-/

namespace Worktop

/-- What the operations on workspaces work with. -/
structure Setup where
  repository : Repository
  mux : Multiplexer
  shell : LoginShell
  lockTable : LockTable := {}
  windowPrefix : String := "tm-"
  poller : Poller := {}
  deriving DecidableEq, Repr

/-- The workspace of a branch. -/
def Setup.workspace (setup : Setup) (branch : String) : Workspace where
  branch
  worktreePath := setup.repository.worktreePath branch
  windowName := Workspace.windowNameOf setup.windowPrefix branch

namespace Lifecycle

/-- How far an addition is. -/
inductive AddState where
  | validating
  | creatingWorktree
  | creatingWindow
  | runningHooks
  | settingUpPanes
  | ready
  | failed
  deriving DecidableEq, Repr

/-- The name of a state. -/
def AddState.name : AddState → String
  | validating => "Validating"
  | creatingWorktree => "CreatingWorktree"
  | creatingWindow => "CreatingWindow"
  | runningHooks => "RunningHooks"
  | settingUpPanes => "SettingUpPanes"
  | ready => "Ready"
  | failed => "Failed"

/-- How far a removal is. -/
inductive RemoveState where
  | validating
  | destroyingWindow
  | removingWorktree
  | deletingBranch
  | done
  | failed
  deriving DecidableEq, Repr

/-- The name of a state. -/
def RemoveState.name : RemoveState → String
  | validating => "Validating"
  | destroyingWindow => "DestroyingWindow"
  | removingWorktree => "RemovingWorktree"
  | deletingBranch => "DeletingBranch"
  | done => "Done"
  | failed => "Failed"

/-- Where an error arose. -/
inductive Phase where
  | add (state : AddState)
  | remove (state : RemoveState)
  | rollback
  | close
  deriving DecidableEq, Repr

/-- The text of a phase. -/
def Phase.text : Phase → String
  | add state => s!"add/{state.name}"
  | remove state => s!"remove/{state.name}"
  | rollback => "rollback"
  | close => "close"

/-- What an error means for what there is: after one of validation there is nothing to undo, and one
of delivery undoes nothing. -/
inductive ErrorKind where
  | validation
  | resourceCreation
  | hook
  | delivery
  | teardown
  deriving DecidableEq, Repr

/-- The text of a kind. -/
def ErrorKind.text : ErrorKind → String
  | validation => "validation"
  | resourceCreation => "resource creation"
  | hook => "hook"
  | delivery => "delivery"
  | teardown => "teardown"

/-- Why something went wrong. -/
inductive Cause where
  | config (error : Config.Error)
  | worktree (error : Worktree.Error)
  | mux (error : Mux.Error)
  | hook (error : Hook.Error)
  | poll (error : PollTimeout)
  | lock (error : LockError)
  | mainWorktree (branch : String)
  | notFound (branch : String)
  deriving DecidableEq, Repr

/-- The text of a cause. -/
def Cause.message : Cause → String
  | config error => error.message
  | worktree error => error.message
  | mux error => error.message
  | hook error => error.message
  | poll error => error.message
  | lock error => error.message
  | mainWorktree branch =>
    s!"'{branch}' is checked out in the main worktree; refusing to remove it"
  | notFound branch => s!"No workspace found for branch '{branch}'"

/-- An error with its phase and kind. -/
structure Error where
  phase : Phase
  kind : ErrorKind
  cause : Cause
  deriving DecidableEq, Repr

/-- The text of an error. -/
def Error.message (e : Error) : String :=
  s!"{e.phase.text} ({e.kind.text}): {e.cause.message}"

/-- Whether the trouble is that there is nothing for the branch. -/
def Error.isNotFound (e : Error) : Bool :=
  match e.cause with
  | .notFound _ => true
  | _ => false

/-- Something that an addition makes. -/
inductive Resource where
  | branch (name : String)
  | worktree (branch path : String)
  | window (name : String)
  | pane (window pane : String)
  deriving DecidableEq, Repr

namespace Resource

/-- The text of a resource. -/
def text : Resource → String
  | .branch name => s!"branch {name}"
  | .worktree _ path => s!"worktree {path}"
  | .window name => s!"window {name}"
  | .pane home id => s!"pane {id} in {home}"

/-- The pane, if it is one. -/
def pane? : Resource → Option String
  | .pane _ id => some id
  | _ => none

end Resource

/-- What came of an operation: what it made and what it removed, each in order. -/
structure Outcome (State : Type) where
  state : State
  workspace : Workspace
  succeeded : Bool := false
  created : List Resource := []
  removed : List Resource := []
  errors : List Error := []
  warnings : List Error := []
  hooks : Option Hook.Record := none
  deriving DecidableEq, Repr

namespace Outcome

variable {State : Type}

/-- The panes that were made. -/
def panes (o : Outcome State) : List String :=
  o.created.filterMap Resource.pane?

/-- Whether there was nothing for the branch. -/
def isNotFound (o : Outcome State) : Bool :=
  o.errors.any Error.isNotFound

end Outcome

end Lifecycle

end Worktop

import Worktop.Lifecycle.Basic

/-!
# Adding a workspace

A branch, its worktree, a window, the hooks, the panes, and a command for each pane.  Where a step
fails, all that was made is removed again, latest first.
-/

namespace Worktop.Lifecycle

variable {ω : Type}

/-- What an addition has made, met and run so far. -/
structure Progress where
  created : List Resource := []
  warnings : List Error := []
  hooks : Option Hook.Record := none
  deriving DecidableEq, Repr

/-- A part of an addition.  Its progress stands also where it fails. -/
abbrev Adding (ω : Type) := ExceptT Error (StateT Progress (Act ω))

namespace Adding

/-- Does an act. -/
def lift {α : Type} (act : Act ω α) : Adding ω α :=
  ExceptT.lift (StateT.lift act)

/-- Does an act whose failure is an error of the addition. -/
def attempt {ε α : Type} (act : ExceptT ε (Act ω) α) (blame : ε → Error) : Adding ω α := do
  match ← lift act.run with
  | .ok a => pure a
  | .error e => throw (blame e)

/-- Notes that something was made. -/
def made (resource : Resource) : Adding ω Unit :=
  modify fun p => { p with created := p.created ++ [resource] }

end Adding

namespace Add

/-- An error that arose before anything was made. -/
def rejection (cause : Cause) : Error :=
  { phase := .add .validating, kind := .validation, cause }

/-- An error of the multiplexer while it was asked whether something can be made. -/
def unanswered (error : Mux.Error) : Error :=
  { phase := .add .validating, kind := .resourceCreation, cause := .mux error }

/-- Blames a failure on the making of something. -/
def failedIn (state : AddState) (cause : Cause) : Error :=
  { phase := .add state, kind := .resourceCreation, cause }

/-- Gives the verdict of an act whose failure is an error. -/
def check {ε α : Type} (act : ExceptT ε (Act ω) α) (blame : ε → Error) :
    ExceptT Error (Act ω) α := do
  match ← ExceptT.lift act.run with
  | .ok a => pure a
  | .error e => throw (blame e)

/-- Whether a workspace can be added: what makes nothing is checked before anything is made. -/
def validate (setup : Setup) (workspace : Workspace) (config : Config) :
    ExceptT Error (Act ω) Unit := do
  if let .error e := config.validate then throw (rejection (.config e))
  if !setup.mux.capabilities.split && config.splits then
    throw (rejection (.mux (.unsupported setup.mux.kind "pane splitting")))
  if !(← check setup.mux.isRunning unanswered) then
    throw (rejection (.mux
      (.unavailable setup.mux.kind "no running server or GUI instance")))
  check (setup.repository.validateBranchName workspace.branch) (rejection ∘ .worktree)
  if ← check (setup.repository.branchExists workspace.branch) (rejection ∘ .worktree) then
    throw (rejection (.worktree (.branchExists workspace.branch)))
  if ← check (setup.mux.windowExists workspace.windowName) unanswered then
    throw (rejection (.mux (.duplicateName workspace.windowName)))

/-- Makes the branch and its worktree.  Git may fail after it made the branch. -/
def createWorktree (setup : Setup) (branch : String) : Adding ω String := do
  match ← Adding.lift (setup.repository.create branch).run with
  | .ok path =>
    Adding.made (.branch branch)
    Adding.made (.worktree branch path)
    pure path
  | .error e =>
    let left ← Adding.lift (setup.repository.branchExists branch).run
    match left, e with
    | .ok true, .branchExists _ => pure ()
    | .ok true, _ => Adding.made (.branch branch)
    | _, _ => pure ()
    throw (failedIn .creatingWorktree (.worktree e))

/-- Makes the window with its first pane. -/
def createWindow (setup : Setup) (workspace : Workspace) (path : String) :
    Adding ω Mux.Window := do
  let window ← Adding.attempt (setup.mux.createWindow workspace.windowName path workspace.env)
    (failedIn .creatingWindow ∘ .mux)
  Adding.made (.window window.name)
  Adding.made (.pane window.name window.pane)
  pure window

/-- Runs the hooks in the worktree. -/
def runHooks (workspace : Workspace) (config : Config) (path : String) : Adding ω Unit := do
  let start ← Adding.lift Act.now
  let steps ← Adding.attempt (Hook.runAll config.postCreate path workspace.env)
    fun e => { phase := .add .runningHooks, kind := .hook, cause := .hook e }
  let elapsed := (← Adding.lift Act.now) - start
  modify fun p => { p with hooks := some { steps, elapsed } }

/-- Splits panes off as the rest of a layout says, starting from a pane: the commands to deliver,
each with its pane. -/
def splitPanes (setup : Setup) (workspace : Workspace) (window path : String) :
    String → List PaneSpec → Adding ω (List (String × String))
  | _, [] => pure []
  | current, spec :: rest => do
    let pane ←
      match spec.split with
      | none => pure current
      | some direction => do
        let pane ← Adding.attempt (setup.mux.splitPane current direction path workspace.env)
          (failedIn .settingUpPanes ∘ .mux)
        Adding.made (.pane window pane)
        pure pane
    let deliveries ← splitPanes setup workspace window path pane rest
    pure ((spec.trimmedCommand?.map (pane, ·)).toList ++ deliveries)

/-- Makes the panes of a layout; its first entry is the first pane of the window. -/
def setUpPanes (setup : Setup) (workspace : Workspace) (window : Mux.Window) (path : String) :
    List PaneSpec → Adding ω (List (String × String))
  | [] => pure []
  | first :: rest => do
    let deliveries ← splitPanes setup workspace window.name path window.pane rest
    pure ((first.trimmedCommand?.map (window.pane, ·)).toList ++ deliveries)

/-- Waits until the multiplexer shows all panes that were made. -/
def awaitPanes (setup : Setup) (window : String) : Adding ω Unit := do
  let expected := ((← get).created.filterMap Resource.pane?).length
  let shown : Act ω Bool := do
    match ← (setup.mux.listPanes window).run with
    | .ok panes => pure (expected ≤ panes.length)
    | .error _ => pure false
  let what := s!"{expected} panes in {window}"
  Adding.attempt (ExceptT.mk (setup.poller.poll what Act.pause shown))
    (failedIn .settingUpPanes ∘ .poll)

/-- Types the commands into their panes.  One that does not get there is only warned of. -/
def deliver (setup : Setup) (workspace : Workspace) : List (String × String) → Adding ω Unit
  | [] => pure ()
  | (pane, command) :: rest => do
    let text := setup.shell.launchText command setup.mux.capabilities workspace.env
    match ← Adding.lift (setup.mux.sendText pane text).run with
    | .ok () => pure ()
    | .error e =>
      let warning := { phase := .add .settingUpPanes, kind := .delivery, cause := .mux e }
      modify fun p => { p with warnings := p.warnings ++ [warning] }
    deliver setup workspace rest

/-- Makes everything. -/
def provision (setup : Setup) (workspace : Workspace) (config : Config) : Adding ω Unit := do
  let path ← createWorktree setup workspace.branch
  let window ← createWindow setup workspace path
  runHooks workspace config path
  let deliveries ← setUpPanes setup workspace window path config.effectivePanes
  awaitPanes setup window.name
  if !deliveries.isEmpty then Adding.lift (Act.pause (config.settleDelay * 1000))
  deliver setup workspace deliveries

/-- Removes something that was made, unless it is gone already.  Panes go with their window. -/
def undo (setup : Setup) : Resource → ExceptT Cause (Act ω) Unit
  | .pane .. => pure ()
  | .window name => do
    match ← ExceptT.lift (setup.mux.destroyWindow name).run with
    | .ok () | .error (.windowNotFound _) => pure ()
    | .error e => throw (.mux e)
  | .worktree branch _ => do
    match ← ExceptT.lift (setup.repository.remove branch true).run with
    | .ok () | .error (.notFound _) => pure ()
    | .error e => throw (.worktree e)
  | .branch name => do
    match ← ExceptT.lift (setup.repository.deleteBranch name true).run with
    | .ok () | .error (.notFound _) => pure ()
    | .error e => throw (.worktree e)

/-- Removes one thing after another, whatever happens: what was removed, and an error for each of
the others. -/
def rollBack (setup : Setup) : List Resource → Act ω (List Resource × List Error)
  | [] => pure ([], [])
  | resource :: rest => do
    match ← (undo setup resource).run with
    | .ok () =>
      let (removed, errors) ← rollBack setup rest
      pure (resource :: removed, errors)
    | .error cause =>
      let (removed, errors) ← rollBack setup rest
      pure (removed, { phase := .rollback, kind := .teardown, cause } :: errors)

/-- What is to be removed for what was made, in order. -/
def undoOrder (created : List Resource) : List Resource :=
  created.reverse.filter (·.pane?.isNone)

/-- Makes everything, or removes again what was made. -/
def build (setup : Setup) (workspace : Workspace) (config : Config) :
    Act ω (Outcome AddState) := do
  let (result, progress) ← (provision setup workspace config).run.run {}
  let outcome : Outcome AddState :=
    { state := .ready, workspace, created := progress.created, warnings := progress.warnings,
      hooks := progress.hooks }
  match result with
  | .ok () => pure { outcome with succeeded := true }
  | .error e =>
    let (removed, errors) ← rollBack setup (undoOrder progress.created)
    pure { outcome with state := .failed, removed, errors := e :: errors }

/-- Adds a workspace, under the lock of its branch held by the caller. -/
def addLocked (setup : Setup) (workspace : Workspace) (config : Config) :
    Act ω (Outcome AddState) := do
  match ← (validate setup workspace config).run with
  | .ok () => build setup workspace config
  | .error e => pure { state := .failed, workspace, errors := [e] }

end Add

/-- Adds the workspace of a branch. -/
def add (setup : Setup) (branch : String) (config : Config) : Act ω (Outcome AddState) := do
  let workspace := setup.workspace branch
  match ← Act.acquire setup.lockTable branch with
  | .error e =>
    pure { state := .failed, workspace, errors := [Add.rejection (.lock e)] }
  | .ok guard =>
    let outcome ← Add.addLocked setup workspace config
    Act.release guard
    pure outcome

end Worktop.Lifecycle

import Worktop.Cli.Help
import Worktop.Cli.Terminal
import Worktop.Config.Reader
import Worktop.Json.Writer
import Worktop.Lifecycle.Add
import Worktop.Lifecycle.Overview
import Worktop.Lifecycle.Remove

/-!
# The command line

What a command prints, and its exit code.
-/

namespace Worktop.Cli

/-- Where a command runs: the current directory, the variables, the programs that can be found, and
what is typed if the input is a terminal. -/
structure Surroundings where
  directory : String
  env : Environment := []
  programs : List String := []
  typed : Option String := none
  deriving DecidableEq, Repr

/-- What a command printed, and its exit code. -/
structure Ending where
  stdout : String := ""
  stderr : String := ""
  exitCode : Nat := 0
  deriving DecidableEq, Repr

/-- Why a command did not get to its end. -/
inductive Error where
  | programMissing (name : String)
  | config (error : Config.Error)
  | worktree (error : Worktree.Error)
  | lifecycle (error : Lifecycle.Error)
  | noTerminal (branch : String)
  deriving DecidableEq, Repr

/-- The text of an error: its own, and that of what is behind it. -/
def Error.message : Error → String
  | programMissing name => s!"{name} not found on PATH: cannot find binary path"
  | config error => error.message
  | worktree error => withReason error
  | lifecycle error =>
    match error.cause with
    | .worktree cause => s!"{error.message}: {withReason cause}"
    | cause => s!"{error.message}: {cause.message}"
  | noTerminal branch =>
    s!"refusing to remove '{branch}' without --force on a non-interactive terminal"
where
  /-- The text of an error of git, and, where git did not start, the reason for it once more. -/
  withReason : Worktree.Error → String
    | .spawn error => s!"{error.message}: {error.reason.message}"
    | error => error.message

/-- A command, which may stop at an error. -/
abbrev Task (ω : Type) := ExceptT Error (Act ω)

variable {ω : Type}

/-- Does an act whose failure is an error of the command. -/
def attempt {ε α : Type} (act : ExceptT ε (Act ω) α) (blame : ε → Error) : Task ω α := do
  match ← ExceptT.lift act.run with
  | .ok a => pure a
  | .error e => throw (blame e)

/-- A program must be found. -/
def require (around : Surroundings) (program : String) : Task ω Unit :=
  if around.programs.contains program then pure () else throw (.programMissing program)

/-- Lines of text. -/
def unlines (lines : List String) : String :=
  String.join (lines.map (· ++ "\n"))

/-- What is told of warnings and errors. -/
def complaints {State : Type} (o : Lifecycle.Outcome State) : String :=
  unlines (o.warnings.map ("warning: " ++ ·.message) ++ o.errors.map ("error: " ++ ·.message))

/-- How an operation ends, given what is told of its success. -/
def ending {State : Type} (o : Lifecycle.Outcome State) (success : List String) : Ending where
  stdout := if o.succeeded then unlines success else ""
  stderr := complaints o
  exitCode := if o.succeeded then 0 else 1

/-- A number of microseconds as seconds with one decimal, the nearest. -/
def seconds (micros : Nat) : String :=
  let tenths := (micros + 50000) / 100000
  s!"{tenths / 10}.{tenths % 10}s"

/-- What is told of hooks. -/
def hookLines : Option Hook.Record → List String
  | some { steps := [], .. } | none => []
  | some record => [s!"Ran {record.steps.length} post-create hook(s) in {seconds record.elapsed}"]

/-- Adds a workspace. -/
def add (around : Surroundings) (setup : Setup) (config : Config) (branch : String) :
    Task ω Ending := do
  require around setup.mux.kind.name
  let o ← ExceptT.lift (Lifecycle.add setup branch config)
  let ready :=
    s!"Workspace '{branch}' ready: {o.workspace.worktreePath} (window {o.workspace.windowName})"
  pure (ending o (ready :: hookLines o.hooks))

/-- What is asked before a removal. -/
def question (branch : String) : String :=
  s!"Remove workspace '{branch}' (window, worktree and branch)? [y/N] "

/-- Removes a workspace that nobody objects to. -/
def removeNow (setup : Setup) (branch : String) (force : Bool) : Task ω Ending := do
  let o ← ExceptT.lift (Lifecycle.remove setup branch force)
  pure (ending o [s!"Workspace '{branch}' removed"])

/-- Removes a workspace, with `force` at once and else on a yes. -/
def remove (around : Surroundings) (setup : Setup) (branch : String) (force : Bool) :
    Task ω Ending :=
  if force then removeNow setup branch true
  else
    match around.typed with
    | none => throw (.noTerminal branch)
    | some typed =>
      if Terminal.saysYes (Terminal.line typed) then do
        let e ← removeNow setup branch false
        pure { e with stdout := question branch ++ e.stdout }
      else pure { stdout := question branch ++ "Aborted\n", exitCode := 1 }

/-- A text, or nothing. -/
def optionalText : Option String → Json.Value
  | some text => .string text
  | none => .null

/-- A workspace as JSON. -/
def summaryJson (s : Lifecycle.Summary) : Json.Value :=
  .object
    [("branch", optionalText s.branch), ("path", .string s.path),
      ("window_name", optionalText s.windowName), ("has_window", .bool s.hasWindow),
      ("prunable", .bool s.prunable)]

/-- A workspace as a line. -/
def summaryLine (s : Lifecycle.Summary) : String :=
  let marks := (if s.hasWindow then ["window"] else []) ++ if s.prunable then ["prunable"] else []
  Text.padRight 32 (s.branch.getD "(detached)") ++ " " ++ Text.padRight 16 (Text.joinWith "," marks)
    ++ " " ++ s.path

/-- Lists the workspaces. -/
def list (setup : Setup) (json : Bool) : Task ω Ending := do
  let rows ← attempt (Lifecycle.list setup) .worktree
  let lines :=
    if json then [(Json.Value.array (rows.map summaryJson)).render 0]
    else if rows.isEmpty then ["No workspaces"]
    else rows.map summaryLine
  pure { stdout := unlines lines }

/-- Closes the window of a workspace. -/
def close (setup : Setup) (branch : String) : Task ω Ending := do
  attempt (Lifecycle.close setup branch) .lifecycle
  pure { stdout := s!"Window for '{branch}' closed\n" }

/-- Finds out what the commands work with: the configuration, and the setup that it makes. -/
def setUp (around : Surroundings) (directory : Option String) : Task ω (Config × Setup) := do
  require around "git"
  let root ← attempt (Worktree.mainRoot (directory.getD around.directory)) .worktree
  let config ← attempt (ExceptT.mk (Config.load around.env root)) .config
  let repository : Repository := { root, base := config.worktreeBase root }
  let mux : Multiplexer := { kind := Mux.Kind.select config.backend around.env }
  let lockDirectory ←
    match ← ExceptT.lift repository.commonDirectory.run with
    | .ok common => pure (some (Path.join common "tidymux/locks"))
    | .error _ => pure none
  let ofMux ← ExceptT.lift mux.defaultShell
  let shell := LoginShell.resolve config.shell ofMux around.env
  pure (config,
    { repository, mux, shell, lockTable := { directory := lockDirectory },
      windowPrefix := config.windowPrefix })

/-- Does what is to be done. -/
def perform (around : Surroundings) (invocation : Invocation) : Task ω Ending := do
  let (config, setup) ← setUp around invocation.directory
  match invocation.request with
  | .add branch => add around setup config branch
  | .remove branch force => remove around setup branch force
  | .list json => list setup json
  | .close branch => close setup branch

/-- Runs the command line. -/
def run (around : Surroundings) (args : List String) : Act ω Ending := do
  match Arguments.parse args with
  | .help topic => pure { stdout := Help.text topic }
  | .version => pure { stdout := s!"{programName} {version}\n" }
  | .misused => pure { stderr := Help.usage, exitCode := 2 }
  | .run invocation =>
    match ← (perform around invocation).run with
    | .ok ending => pure ending
    | .error e => pure { stderr := s!"error: {e.message}\n", exitCode := 1 }

end Worktop.Cli

import Worktop.Mux.Basic

/-!
# tmux

Windows are named by their ids (`@1`) and panes by theirs (`%1`), so that no name has to be fit for
being read by tmux.
-/

namespace Worktop.Mux.Tmux

variable {ω : Type}

/-- A tmux command, on the socket of the given name. -/
def command (socket : Option String) (args : List String) : Command where
  program := "tmux"
  args :=
    match socket with
    | some name => "-L" :: name :: args
    | none => args

/-- Whether tmux complains that there is no server. -/
def saysNoServer (complaint : String) : Bool :=
  Text.occurs "no server running" complaint || Text.occurs "error connecting to" complaint

/-- Runs a command, whatever its exit code. -/
def exec (command : Command) : Result ω Output := do
  match ← ExceptT.lift (Act.exec command) with
  | .ok output => pure output
  | .error e => throw (.unavailable .tmux e.reason.message)

/-- Runs a command that has to succeed. -/
def run (operation : String) (command : Command) : Result ω Output := do
  let output ← exec command
  if output.success then
    pure output
  else if saysNoServer output.complaint then
    throw (.unavailable .tmux output.complaint)
  else
    throw (.commandFailed .tmux operation output.complaint)

/-- The command that lists the windows of all sessions. -/
def listCommand (socket : Option String) : Command :=
  command socket ["list-windows", "-a", "-F", "#\x7bwindow_id\x7d\t#\x7bwindow_name\x7d"]

/-- The ids and names of windows in a listing.  A line without a tab is not a window. -/
def windowsOfListing (listing : String) : List (String × String) :=
  (Text.lines listing).filterMap (Text.splitFirst? '\t')

/-- The ids and names of all windows; without a server there are none. -/
def windows (socket : Option String) : Result ω (List (String × String)) := do
  let output ← exec (listCommand socket)
  if output.success then
    pure (windowsOfListing output.stdout)
  else if saysNoServer output.complaint then
    pure []
  else
    throw (.commandFailed .tmux "list-windows" output.complaint)

/-- The ids of the windows of a name. -/
def windowIds (socket : Option String) (name : String) : Result ω (List String) := do
  pure (((← windows socket).filter (·.2 = name)).map (·.1))

/-- Whether there is a server. -/
def isRunning (socket : Option String) : Result ω Bool := do
  match ← ExceptT.lift (Act.exec
      (command socket ["list-sessions", "-F", "#\x7bsession_name\x7d"])) with
  | .ok output => pure output.success
  | .error _ => pure false

/-- The arguments that hand variables to a new pane. -/
def envArgs (env : Environment) : List String :=
  env.flatMap fun v => ["-e", v.1 ++ "=" ++ v.2]

/-- The id of a window and of its pane, as printed for a new window. -/
def windowOfOutput? (name line : String) : Option Window := do
  let (id, pane) ← Text.splitFirst? ' ' line
  if id.toList.head? = some '@' ∧ pane.toList.head? = some '%' then some { name, id, pane }
  else none

/-- Makes a window, unless there is one of that name. -/
def createWindow (socket : Option String) (name directory : String) (env : Environment) :
    Result ω Window := do
  if !(← windowIds socket name).isEmpty then throw (.duplicateName name)
  let output ← run "new-window" (command socket
    (["new-window", "-P", "-F", "#\x7bwindow_id\x7d #\x7bpane_id\x7d", "-n", name, "-c", directory]
      ++ envArgs env))
  let line := Text.trim output.stdout
  match windowOfOutput? name line with
  | some window => pure window
  | none => throw (.unexpectedOutput "new-window" line)

/-- Makes a pane out of a part of another one. -/
def splitPane (socket : Option String) (pane : String) (direction : Direction)
    (directory : String) (env : Environment) : Result ω String := do
  let flag :=
    match direction with
    | .horizontal => "-h"
    | .vertical => "-v"
  let output ← run "split-window" (command socket
    (["split-window", flag, "-t", pane, "-c", directory, "-P", "-F", "#\x7bpane_id\x7d"]
      ++ envArgs env))
  let pane := Text.trim output.stdout
  if pane.toList.head? = some '%' then pure pane
  else throw (.unexpectedOutput "split-window" pane)

/-- Types a text into a pane, and then the Enter key. -/
def sendText (socket : Option String) (pane text : String) : Result ω Unit := do
  let _ ← run "send-keys" (command socket ["send-keys", "-t", pane, "-l", text])
  let _ ← run "send-keys" (command socket ["send-keys", "-t", pane, "Enter"])

/-- Kills one window after another. -/
def killWindows (socket : Option String) : List String → Result ω Unit
  | [] => pure ()
  | id :: rest => do
    let _ ← run "kill-window" (command socket ["kill-window", "-t", id])
    killWindows socket rest

/-- Kills every window of a name; there must be one. -/
def destroyWindow (socket : Option String) (name : String) : Result ω Unit := do
  let ids ← windowIds socket name
  if ids.isEmpty then throw (.windowNotFound name)
  killWindows socket ids

/-- The names of all windows. -/
def listWindows (socket : Option String) : Result ω (List String) := do
  pure ((← windows socket).map (·.2))

/-- The panes in a listing, one on each line. -/
def panesOfListing (listing : String) : List String :=
  ((Text.lines listing).map Text.trim).filter (!·.isEmpty)

/-- The panes of one window after another. -/
def panesOf (socket : Option String) : List String → Result ω (List String)
  | [] => pure []
  | id :: rest => do
    let output ← run "list-panes"
      (command socket ["list-panes", "-t", id, "-F", "#\x7bpane_id\x7d"])
    let panes ← panesOf socket rest
    pure (panesOfListing output.stdout ++ panes)

/-- The panes of the windows of a name. -/
def listPanes (socket : Option String) (name : String) : Result ω (List String) := do
  panesOf socket (← windowIds socket name)

/-- The text in a pane. -/
def capturePane (socket : Option String) (pane : String) : Result ω String := do
  let output ← run "capture-pane" (command socket ["capture-pane", "-p", "-J", "-t", pane])
  pure output.stdout

/-- The shell that tmux is set to start, if it says one. -/
def defaultShell (socket : Option String) : Act ω (Option String) := do
  match ← Act.exec (command socket ["show-options", "-gv", "default-shell"]) with
  | .error _ => pure none
  | .ok output =>
    let shell := Text.trim output.stdout
    pure (if output.success && !shell.isEmpty then some shell else none)

end Worktop.Mux.Tmux

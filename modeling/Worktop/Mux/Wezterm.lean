import Worktop.Mux.Basic
import Worktop.Mux.PaneList

/-!
# WezTerm

A window is a tab, in a window of its own, whose title is the name.  New panes are given no
variables.
-/

namespace Worktop.Mux.Wezterm

variable {ω : Type}

/-- A command to the running WezTerm. -/
def command (args : List String) : Command where
  program := "wezterm"
  args := "cli" :: args

/-- Runs a command that has to succeed. -/
def run (operation : String) (args : List String) : Result ω Output := do
  match ← ExceptT.lift (Act.exec (command args)) with
  | .error e => throw (.unavailable .wezterm e.reason.message)
  | .ok output =>
    if output.success then pure output
    else throw (.commandFailed .wezterm operation output.complaint)

/-- All panes. -/
def panes : Result ω (List PaneEntry) := do
  let output ← run "list" ["list", "--format", "json"]
  match PaneEntry.listOfText? output.stdout with
  | some entries => pure entries
  | none => throw (.unexpectedOutput "list" "not a list of panes")

/-- The panes of the tabs of a title. -/
def panesIn (name : String) : Result ω (List PaneEntry) := do
  pure ((← panes).filter (·.title = name))

/-- Whether WezTerm answers. -/
def isRunning : Result ω Bool :=
  tryCatch (do let _ ← panes; pure true) fun
    | .unavailable .. | .commandFailed .. => pure false
    | e => throw e

/-- The name of the pane that a command printed. -/
def paneOfOutput (operation printed : String) : Result ω String := do
  let printed := Text.trim printed
  match paneName? printed with
  | some pane => pure pane
  | none => throw (.unexpectedOutput operation printed)

/-- The tab of a pane in a listing, or nothing if the pane is not listed. -/
def tabOf (pane : String) (entries : List PaneEntry) : String :=
  match entries.find? (toString ·.pane = pane) with
  | some entry => toString entry.tab
  | none => ""

/-- Gives the tab of a pane its title, and tells the tab. -/
def titleTab (name pane : String) : Result ω String := do
  let _ ← run "set-tab-title" ["set-tab-title", "--pane-id", pane, name]
  pure (tabOf pane (← panes))

/-- Kills a pane. -/
def killPane (pane : String) : Result ω Unit := do
  let _ ← run "kill-pane" ["kill-pane", "--pane-id", pane]

/-- Makes a window, unless there is one of that name.  A tab without its title could not be found
again, so where it gets none the pane is killed. -/
def createWindow (name directory : String) : Result ω Window := do
  if (← panes).any (·.title = name) then throw (.duplicateName name)
  let output ← run "spawn" ["spawn", "--new-window", "--cwd", directory]
  let pane ← paneOfOutput "spawn" output.stdout
  let id ← tryCatch (titleTab name pane) fun e => do
    let _ ← ExceptT.lift (killPane pane).run
    throw e
  pure { name, id, pane }

/-- Makes a pane out of a part of another one. -/
def splitPane (pane : String) (direction : Direction) (directory : String) :
    Result ω String := do
  let side :=
    match direction with
    | .horizontal => "--right"
    | .vertical => "--bottom"
  let output ← run "split-pane" ["split-pane", "--pane-id", pane, side, "--cwd", directory]
  paneOfOutput "split-pane" output.stdout

/-- Types a text into a pane, with a carriage return for the Enter key. -/
def sendText (pane text : String) : Result ω Unit := do
  let _ ← run "send-text" ["send-text", "--pane-id", pane, "--no-paste", text ++ "\r"]

/-- Kills one pane after another. -/
def killPanes : List PaneEntry → Result ω Unit
  | [] => pure ()
  | entry :: rest => do
    killPane (toString entry.pane)
    killPanes rest

/-- Kills every pane of a window; there must be one. -/
def destroyWindow (name : String) : Result ω Unit := do
  let entries ← panesIn name
  if entries.isEmpty then throw (.windowNotFound name)
  killPanes entries

/-- The titles of tabs, each once, where it first appears; a tab without a title is no window. -/
def titles (entries : List PaneEntry) : List String :=
  ((entries.map (·.title)).filter (!·.isEmpty)).foldl
    (fun names name => if name ∈ names then names else names ++ [name]) []

/-- The names of all windows. -/
def listWindows : Result ω (List String) := do
  pure (titles (← panes))

/-- The panes of the windows of a name. -/
def listPanes (name : String) : Result ω (List String) := do
  pure ((← panesIn name).map (toString ·.pane))

/-- The text in a pane. -/
def capturePane (pane : String) : Result ω String := do
  let output ← run "get-text" ["get-text", "--pane-id", pane]
  pure output.stdout

end Worktop.Mux.Wezterm

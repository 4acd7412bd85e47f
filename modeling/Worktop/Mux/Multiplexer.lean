import Worktop.Mux.Tmux
import Worktop.Mux.Wezterm

/-!
# Either multiplexer
-/

namespace Worktop

/-- A multiplexer to work with: the tmux on a socket, or WezTerm.  With `limits` it is taken to be
able to do that and no more, and its shell is not asked for. -/
structure Multiplexer where
  kind : Mux.Kind
  socket : Option String := none
  limits : Option Mux.Capabilities := none
  deriving DecidableEq, Repr

namespace Multiplexer

open Mux (Capabilities Direction Kind Result Window)

variable {ω : Type}

/-- What it can do. -/
def capabilities (m : Multiplexer) : Capabilities :=
  m.limits.getD { paneEnv := m.kind = .tmux, split := true, capture := true }

/-- Whether it answers. -/
def isRunning (m : Multiplexer) : Result ω Bool :=
  match m.kind with
  | .tmux => Mux.Tmux.isRunning m.socket
  | .wezterm => Mux.Wezterm.isRunning

/-- Makes a window, unless there is one of that name. -/
def createWindow (m : Multiplexer) (name directory : String) (env : Environment) :
    Result ω Window :=
  match m.kind with
  | .tmux => Mux.Tmux.createWindow m.socket name directory env
  | .wezterm => Mux.Wezterm.createWindow name directory

/-- Makes a pane out of a part of another one. -/
def splitPane (m : Multiplexer) (pane : String) (direction : Direction) (directory : String)
    (env : Environment) : Result ω String :=
  match m.kind with
  | .tmux => Mux.Tmux.splitPane m.socket pane direction directory env
  | .wezterm => Mux.Wezterm.splitPane pane direction directory

/-- Types a text and the Enter key into a pane. -/
def sendText (m : Multiplexer) (pane text : String) : Result ω Unit :=
  match m.kind with
  | .tmux => Mux.Tmux.sendText m.socket pane text
  | .wezterm => Mux.Wezterm.sendText pane text

/-- Kills every window of a name; there must be one. -/
def destroyWindow (m : Multiplexer) (name : String) : Result ω Unit :=
  match m.kind with
  | .tmux => Mux.Tmux.destroyWindow m.socket name
  | .wezterm => Mux.Wezterm.destroyWindow name

/-- The names of all windows. -/
def listWindows (m : Multiplexer) : Result ω (List String) :=
  match m.kind with
  | .tmux => Mux.Tmux.listWindows m.socket
  | .wezterm => Mux.Wezterm.listWindows

/-- Whether there is a window of a name. -/
def windowExists (m : Multiplexer) (name : String) : Result ω Bool := do
  pure ((← m.listWindows).contains name)

/-- The panes of the windows of a name. -/
def listPanes (m : Multiplexer) (name : String) : Result ω (List String) :=
  match m.kind with
  | .tmux => Mux.Tmux.listPanes m.socket name
  | .wezterm => Mux.Wezterm.listPanes name

/-- The text in a pane. -/
def capturePane (m : Multiplexer) (pane : String) : Result ω String :=
  match m.kind with
  | .tmux => Mux.Tmux.capturePane m.socket pane
  | .wezterm => Mux.Wezterm.capturePane pane

/-- The shell that it starts in new panes, if it says one. -/
def defaultShell (m : Multiplexer) : Act ω (Option String) :=
  match m.kind, m.limits with
  | .tmux, none => Mux.Tmux.defaultShell m.socket
  | _, _ => pure none

end Multiplexer

end Worktop

import Worktop.Environment
import Worktop.Session
import Worktop.Text.Quoted

/-!
# Terminal multiplexers

What the two multiplexers have in common: their windows and panes, what they can do, and how they
fail.
-/

namespace Worktop.Mux

/-- The multiplexers. -/
inductive Kind where
  | tmux
  | wezterm
  deriving DecidableEq, Repr

/-- The name of a multiplexer, which is also the name of its program. -/
def Kind.name : Kind → String
  | tmux => "tmux"
  | wezterm => "wezterm"

/-- What a multiplexer can do: hand variables to a new pane, split panes, and give the text in
them. -/
structure Capabilities where
  paneEnv : Bool
  split : Bool
  capture : Bool
  deriving DecidableEq, Repr

/-- The new pane goes beside the old one or below it. -/
inductive Direction where
  | horizontal
  | vertical
  deriving DecidableEq, Repr

/-- A new window and the pane it starts with. -/
structure Window where
  name : String
  id : String
  pane : String
  deriving DecidableEq, Repr

/-- Why a multiplexer did not do something. -/
inductive Error where
  | duplicateName (name : String)
  | unavailable (kind : Kind) (reason : String)
  | windowNotFound (name : String)
  | unsupported (kind : Kind) (capability : String)
  | commandFailed (kind : Kind) (operation stderr : String)
  | unexpectedOutput (operation output : String)
  deriving DecidableEq, Repr

/-- The text of an error. -/
def Error.message : Error → String
  | duplicateName name => s!"A window named '{name}' already exists"
  | unavailable kind reason => s!"{kind.name} is not available: {reason}"
  | windowNotFound name => s!"Window not found: {name}"
  | unsupported kind capability => s!"{kind.name} does not support {capability}"
  | commandFailed kind operation stderr => s!"{kind.name} {operation} failed: {stderr}"
  | unexpectedOutput operation output => s!"Unexpected {operation} output: {Text.quoted output}"

/-- An act of a multiplexer, which may fail. -/
abbrev Result (ω : Type) := ExceptT Error (Act ω)

/-- The multiplexer to use: the configured one, else WezTerm inside WezTerm, unless inside tmux as
well, else tmux. -/
def Kind.select (configured : Option Kind) (env : Environment) : Kind :=
  match configured with
  | some kind => kind
  | none =>
    if (env.filled? "TMUX").isNone && (env.filled? "WEZTERM_PANE").isSome then .wezterm else .tmux

end Worktop.Mux

import Worktop.Mux.Basic
import Worktop.Workspace

/-!
# Configurations

How a repository wants its workspaces, and what makes a configuration unfit for use.
-/

namespace Worktop

/-- One entry of a layout: a command, and how to split a pane off for it.  Without a split the
command goes into the pane of the entry before, or into the first pane of the window. -/
structure PaneSpec where
  command : Option String := none
  split : Option Mux.Direction := none
  deriving DecidableEq, Repr

/-- The command without the blanks around it, if it is more than blanks. -/
def PaneSpec.trimmedCommand? (p : PaneSpec) : Option String :=
  (p.command.map Text.trim).filter (!·.isEmpty)

/-- How a repository wants its workspaces. -/
structure Config where
  windowPrefix : String := "tm-"
  worktreeDirectory : Option String := none
  shell : Option String := none
  backend : Option Mux.Kind := none
  settleDelay : Nat := 300
  postCreate : List String := []
  panes : List PaneSpec := []
  deriving DecidableEq, Repr

namespace Config

/-- What makes a configuration unfit for use. -/
inductive Fault where
  | firstPaneSplits
  | blankCommand (pane : Nat)
  | blankHook (hook : Nat)
  | windowPrefixPunctuated
  deriving DecidableEq, Repr

/-- The text of a fault. -/
def Fault.message : Fault → String
  | firstPaneSplits => "the first pane is the window's initial pane and cannot split"
  | blankCommand pane => s!"pane {pane} has a blank command"
  | blankHook hook => s!"post_create hook {hook} is blank"
  | windowPrefixPunctuated => "window_prefix must not contain ':' or '.'"

/-- Why there is no configuration to use. -/
inductive Error where
  | unreadable (path : String) (reason : SystemError)
  | malformed (path : Option String)
  | invalid (fault : Fault)
  deriving DecidableEq, Repr

/-- The text of an error. -/
def Error.message : Error → String
  | unreadable path reason => s!"Failed to read config: {path}: {reason.message}"
  | malformed none => "Failed to parse config: not a configuration in TOML"
  | malformed (some path) =>
    s!"Failed to parse config: {path}: Failed to parse config: not a configuration in TOML"
  | invalid fault => s!"Invalid config: {fault.message}"

/-- The first thing that makes a configuration unfit: a first pane that splits, then a blank
command, then a blank hook, then a prefix with a colon or a full stop in it. -/
def fault? (c : Config) : Option Fault :=
  let firstSplits := (c.panes.head?.bind (·.split)).isSome
  let isBlank (p : PaneSpec) : Bool := (p.command.map Text.isBlankText).getD false
  if firstSplits then some .firstPaneSplits
  else
    ((c.panes.findIdx? isBlank).map Fault.blankCommand).or
      (((c.postCreate.findIdx? Text.isBlankText).map Fault.blankHook).or
        (if c.windowPrefix.toList.any fun ch => ch = ':' || ch = '.' then
          some .windowPrefixPunctuated
        else none))

/-- Whether a configuration is fit for use. -/
def validate (c : Config) : Except Error Unit :=
  match c.fault? with
  | some fault => .error (.invalid fault)
  | none => .ok ()

/-- The layout: a window has at least its first pane. -/
def effectivePanes (c : Config) : List PaneSpec :=
  if c.panes.isEmpty then [{}] else c.panes

/-- Whether some pane is to be split off. -/
def splits (c : Config) : Bool :=
  c.panes.any (·.split.isSome)

/-- Where the worktrees of a repository go. -/
def worktreeBase (c : Config) (repository : String) : String :=
  match (c.worktreeDirectory.map Text.trim).filter (!·.isEmpty) with
  | some directory => Path.join repository directory
  | none => Workspace.defaultBase repository

end Config

end Worktop

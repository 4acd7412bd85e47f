import Worktop.Config.Basic
import Worktop.Session
import Worktop.Toml.Document

/-!
# Reading configurations

A configuration is written in TOML.  What it leaves out has a default, and keys that are not known
are passed over; a value of the wrong type makes the whole text malformed.
-/

namespace Worktop

open Toml (Table Value)

namespace Config

/-- A text. -/
def textOf? : Value → Option String
  | .string text => some text
  | _ => none

/-- A number that is not negative. -/
def naturalOf? : Value → Option Nat
  | .integer n => if 0 ≤ n then some n.toNat else none
  | _ => none

/-- The items of an array, or the tables under one header. -/
def itemsOf? : Value → Option (List Value)
  | .array items => some items
  | .tables elements => some (elements.map (.table .header))
  | _ => none

/-- Nothing: an empty table or an empty array. -/
def isVoid : Value → Bool
  | .array items => items.isEmpty
  | .table _ entries => entries.isEmpty
  | _ => false

/-- A word out of a few: as a text, or as a table that has it for its one key and holds nothing
there. -/
def wordOf? : Value → Option String
  | .string word => some word
  | .table _ [(word, value)] => if isVoid value then some word else none
  | _ => none

/-- A multiplexer. -/
def kindOf? (value : Value) : Option Mux.Kind := do
  match ← wordOf? value with
  | "tmux" => some .tmux
  | "wezterm" | "wez_term" => some .wezterm
  | _ => none

/-- How to split a pane off, if at all. -/
def splitOf? (value : Value) : Option (Option Mux.Direction) := do
  match ← wordOf? value with
  | "none" => some none
  | "horizontal" => some (some .horizontal)
  | "vertical" => some (some .vertical)
  | _ => none

/-- Reads the value of a key, or takes a default if the key is not there. -/
def field? {α : Type} (table : Table) (key : String) (read : Value → Option α) (default : α) :
    Option α :=
  match table.lookup key with
  | some value => read value
  | none => some default

/-- An entry of a layout: a table, or an array of a command and perhaps a split.  A moment has none
of the keys of one. -/
def paneOf? : Value → Option PaneSpec
  | .table _ table => do
    let command ← field? table "command" (fun v => (textOf? v).map some) none
    let split ← field? table "split" splitOf? none
    some { command, split }
  | .array (command :: rest) => do
    let command ← textOf? command
    let split ← match rest with
      | split :: _ => splitOf? split
      | [] => some none
    some { command := some command, split }
  | .moment _ => some {}
  | _ => none

/-- The configuration that a document is. -/
def ofDocument? (table : Table) : Option Config := do
  let unset : Config := {}
  let optionalText (v : Value) := (textOf? v).map some
  let windowPrefix ← field? table "window_prefix" textOf? unset.windowPrefix
  let worktreeDirectory ← field? table "worktree_dir" optionalText none
  let shell ← field? table "shell" optionalText none
  let backend ← field? table "backend" (fun v => (kindOf? v).map some) none
  let settleDelay ← field? table "settle_delay_ms" naturalOf? unset.settleDelay
  let postCreate ← field? table "post_create" (fun v => do (← itemsOf? v).mapM textOf?) []
  let panes ← field? table "panes" (fun v => do (← itemsOf? v).mapM paneOf?) []
  some { windowPrefix, worktreeDirectory, shell, backend, settleDelay, postCreate, panes }

/-- The configuration that a text is. -/
def ofText (text : String) : Except Error Config :=
  match (Table.ofText? text).bind ofDocument? with
  | some config => .ok config
  | none => .error (.malformed none)

/-- The configuration in a file. -/
def ofFile {ω : Type} (path : String) : Act ω (Except Error Config) := do
  match ← Act.readText path with
  | .error reason => pure (.error (.unreadable path reason))
  | .ok text => pure ((ofText text).mapError fun _ => .malformed (some path))

/-- The configuration in the first of some files that is there. -/
def loadFirst {ω : Type} : List String → Act ω (Except Error Config)
  | [] => pure (.ok {})
  | path :: rest => do
    if ← Act.pathExists path then ofFile path else loadFirst rest

/-- The directory of a user's configuration files. -/
def userDirectory? (env : Environment) : Option String :=
  match (env.get? "XDG_CONFIG_HOME").filter Path.isAbsolute with
  | some directory => some directory
  | none => ((env.get? "HOME").filter (!·.isEmpty)).map (Path.join · ".config")

/-- Where the configuration of a repository is looked for: in the repository, then with the user's
configuration files. -/
def paths (env : Environment) (repository : String) : List String :=
  Path.join repository ".tidymux.toml" ::
    ((userDirectory? env).map fun d => Path.join d "tidymux/config.toml").toList

/-- The configuration of a repository. -/
def load {ω : Type} (env : Environment) (repository : String) : Act ω (Except Error Config) :=
  loadFirst (paths env repository)

end Config

end Worktop

import Worktop.Proofs.Mux.Tmux
import Worktop.Proofs.Mux.Wezterm

/-! # Queries

Whether a multiplexer answers, which windows it has and what git knows of a branch is asked by one
command each, and nothing else is done. What is made of the answer is told by the reply alone.
-/

namespace Worktop

open Act

variable {ω : Type}

namespace Multiplexer

/-- The command that tells whether a multiplexer answers. -/
def runningQuery (m : Multiplexer) : Command :=
  match m.kind with
  | .tmux => Mux.Tmux.command m.socket ["list-sessions", "-F", "#\x7bsession_name\x7d"]
  | .wezterm => Mux.Wezterm.command ["list", "--format", "json"]

/-- The command that tells which windows there are. -/
def windowQuery (m : Multiplexer) : Command :=
  match m.kind with
  | .tmux => Mux.Tmux.listCommand m.socket
  | .wezterm => Mux.Wezterm.command ["list", "--format", "json"]

/-- The names of the windows that a reply lists. -/
def namesListed (m : Multiplexer) (reply : Reply) : Except Mux.Error (List String) :=
  match m.kind with
  | .tmux => (Mux.Tmux.windowsOf reply).map fun windows => windows.map (·.2)
  | .wezterm => (Mux.Wezterm.panesOf reply).map Mux.Wezterm.titles

variable {m : Multiplexer}

theorem isRunning_asks : Asks (m.isRunning : Mux.Result ω Bool).run [m.runningQuery] := by
  unfold isRunning runningQuery
  cases m.kind with
  | tmux =>
    dsimp only
    unfold Mux.Tmux.isRunning
    apply (asks_exec _).lift.andThen
    intro reply
    cases reply with
    | ok output => exact asks_ok _
    | error e => exact asks_ok _
  | wezterm =>
    dsimp only
    unfold Mux.Wezterm.isRunning
    apply (Mux.Wezterm.panes_reads.asks.andThen fun panes => asks_ok true).tryCatch
    intro e
    split
    · exact asks_ok _
    · exact asks_ok _
    · exact asks_error _

theorem listWindows_reads :
    Reads (m.listWindows : Mux.Result ω (List String)).run m.windowQuery m.namesListed := by
  unfold listWindows windowQuery namesListed
  cases m.kind with
  | tmux => exact Mux.Tmux.listWindows_reads _
  | wezterm => exact Mux.Wezterm.panes_reads.map _

theorem windowExists_reads (name : String) :
    Reads (m.windowExists name : Mux.Result ω Bool).run m.windowQuery fun reply =>
      (m.namesListed reply).map (·.contains name) :=
  listWindows_reads.map _

end Multiplexer

/-- A text that cannot be a name is told without asking git. -/
theorem Repository.validateBranchName_inquires {r : Repository} (branch : String) :
    Inquires (r.validateBranchName branch : Worktree.Result ω Unit)
      [r.git ["check-ref-format", "--branch", branch]] := by
  unfold validateBranchName
  dsimp only
  split
  · rw [throw_bind]
    exact inquires_error _ _
  · apply Asks.inquires
    apply (Worktree.exec_reads _).asks.andThen
    intro output
    split
    · exact asks_error _
    · exact asks_ok _

end Worktop

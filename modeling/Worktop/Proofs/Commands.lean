import Worktop.Lifecycle.Overview
import Worktop.Lifecycle.Remove
import Worktop.Proofs.Asking
import Worktop.Proofs.Within

/-! # Which commands the adapters run

Commands are told apart by their program and their words. Those that take something away are
destructive (`Worktop.Command.Destructive`); every operation of an adapter that is not one of the
few for taking something away runs none of them, whatever it is answered.
-/

namespace Worktop

namespace Command

/-- The words after the program, without those that only say which server is meant. -/
def words (c : Command) : List String :=
  match c.program, c.args with
  | "tmux", "-L" :: _ :: rest => rest
  | "wezterm", "cli" :: rest => rest
  | _, args => args

/-- A command that takes away windows, panes, worktrees or branches. -/
def Destructive (c : Command) : Prop :=
  (c.program = "tmux" ∧ c.words.head? = some "kill-window") ∨
    (c.program = "wezterm" ∧ c.words.head? = some "kill-pane") ∨
    (c.program = "git" ∧ (c.words.take 2 = ["worktree", "remove"] ∨
      c.words.take 2 = ["worktree", "prune"] ∨ c.words.head? = some "branch"))

@[simp] theorem program_tmux (socket : Option String) (args : List String) :
    (Mux.Tmux.command socket args).program = "tmux" := rfl

@[simp] theorem program_wezterm (args : List String) :
    (Mux.Wezterm.command args).program = "wezterm" := rfl

@[simp] theorem program_git (directory : String) (args : List String) :
    (Worktree.git directory args).program = "git" := rfl

@[simp] theorem words_tmux (socket : Option String) {verb : String} (rest : List String)
    (different : verb ≠ "-L") :
    (Mux.Tmux.command socket (verb :: rest)).words = verb :: rest := by
  cases socket with
  | none => simp [words, Mux.Tmux.command, different]
  | some name => simp [words, Mux.Tmux.command]

@[simp] theorem words_wezterm (args : List String) : (Mux.Wezterm.command args).words = args := by
  simp [words, Mux.Wezterm.command]

@[simp] theorem words_git (directory : String) (args : List String) :
    (Worktree.git directory args).words = args := by
  simp [words, Worktree.git]

end Command

open Act

variable {ω : Type} {allowed : Command → Prop}

/-! ## tmux -/

namespace Mux.Tmux

variable {socket : Option String}

theorem exec_within {c : Command} (allows : allowed c) :
    Within allowed (exec c : Result ω Output).run := by
  unfold exec
  apply (Within.exec allows).lift.andThen
  intro reply
  cases reply with
  | ok output => exact within_ok _
  | error e => exact within_error _

theorem run_within (operation : String) {c : Command} (allows : allowed c) :
    Within allowed (run operation c : Result ω Output).run := by
  unfold run
  apply (exec_within allows).andThen
  intro output
  split
  · exact within_ok _
  · split
    · exact within_error _
    · exact within_error _

theorem windows_within (lists : allowed (listCommand socket)) :
    Within allowed (windows socket : Result ω _).run := by
  unfold windows
  apply (exec_within lists).andThen
  intro output
  split
  · exact within_ok _
  · split
    · exact within_ok _
    · exact within_error _

theorem windowIds_within (name : String) (lists : allowed (listCommand socket)) :
    Within allowed (windowIds socket name : Result ω _).run := by
  unfold windowIds
  exact (windows_within lists).andThen fun windows => within_ok _

theorem isRunning_within
    (asks : allowed (command socket ["list-sessions", "-F", "#\x7bsession_name\x7d"])) :
    Within allowed (isRunning socket : Result ω _).run := by
  unfold isRunning
  apply (Within.exec asks).lift.andThen
  intro reply
  cases reply with
  | ok output => exact within_ok _
  | error e => exact within_ok _

theorem createWindow_within (name directory : String) (env : Environment)
    (lists : allowed (listCommand socket))
    (makes : ∀ rest, allowed (command socket ("new-window" :: rest))) :
    Within allowed (createWindow socket name directory env : Result ω _).run := by
  unfold createWindow
  apply (windowIds_within name lists).andThen
  intro ids
  dsimp only
  split
  · exact within_error _
  · apply (run_within "new-window" (makes _)).andThen
    intro output
    split
    · exact within_ok _
    · exact within_error _

theorem splitPane_within (pane : String) (direction : Direction) (directory : String)
    (env : Environment) (splits : ∀ rest, allowed (command socket ("split-window" :: rest))) :
    Within allowed (splitPane socket pane direction directory env : Result ω _).run := by
  unfold splitPane
  apply (run_within "split-window" (splits _)).andThen
  intro output
  dsimp only
  split
  · exact within_ok _
  · exact within_error _

theorem sendText_within (pane text : String)
    (sends : ∀ rest, allowed (command socket ("send-keys" :: rest))) :
    Within allowed (sendText socket pane text : Result ω _).run := by
  unfold sendText
  apply (run_within "send-keys" (sends _)).andThen
  intro _
  exact (run_within "send-keys" (sends _)).andThen fun _ => within_ok _

theorem killWindows_within (kills : ∀ rest, allowed (command socket ("kill-window" :: rest)))
    (ids : List String) : Within allowed (killWindows socket ids : Result ω Unit).run := by
  induction ids with
  | nil => exact within_ok _
  | cons id rest ih =>
    unfold killWindows
    exact (run_within "kill-window" (kills _)).andThen fun _ => ih

theorem destroyWindow_within (name : String) (lists : allowed (listCommand socket))
    (kills : ∀ rest, allowed (command socket ("kill-window" :: rest))) :
    Within allowed (destroyWindow socket name : Result ω Unit).run := by
  unfold destroyWindow
  apply (windowIds_within name lists).andThen
  intro ids
  dsimp only
  split
  · exact within_error _
  · exact killWindows_within kills ids

theorem listWindows_within (lists : allowed (listCommand socket)) :
    Within allowed (listWindows socket : Result ω _).run := by
  unfold listWindows
  exact (windows_within lists).andThen fun windows => within_ok _

theorem panesOf_within (shows : ∀ rest, allowed (command socket ("list-panes" :: rest)))
    (ids : List String) : Within allowed (panesOf socket ids : Result ω _).run := by
  induction ids with
  | nil => exact within_ok _
  | cons id rest ih =>
    unfold panesOf
    apply (run_within "list-panes" (shows _)).andThen
    intro output
    exact ih.andThen fun panes => within_ok _

theorem listPanes_within (name : String) (lists : allowed (listCommand socket))
    (shows : ∀ rest, allowed (command socket ("list-panes" :: rest))) :
    Within allowed (listPanes socket name : Result ω _).run := by
  unfold listPanes
  exact (windowIds_within name lists).andThen fun ids => panesOf_within shows ids

end Mux.Tmux

/-! ## WezTerm -/

namespace Mux.Wezterm

theorem run_within (operation : String) {args : List String} (allows : allowed (command args)) :
    Within allowed (run operation args : Result ω Output).run := by
  unfold run
  apply (Within.exec allows).lift.andThen
  intro reply
  cases reply with
  | error e => exact within_error _
  | ok output =>
    dsimp only
    split
    · exact within_ok _
    · exact within_error _

theorem panes_within (lists : allowed (command ["list", "--format", "json"])) :
    Within allowed (panes : Result ω _).run := by
  unfold panes
  apply (run_within "list" lists).andThen
  intro output
  split
  · exact within_ok _
  · exact within_error _

theorem panesIn_within (name : String) (lists : allowed (command ["list", "--format", "json"])) :
    Within allowed (panesIn name : Result ω _).run := by
  unfold panesIn
  exact (panes_within lists).andThen fun _ => within_ok _

theorem isRunning_within (lists : allowed (command ["list", "--format", "json"])) :
    Within allowed (isRunning : Result ω Bool).run := by
  unfold isRunning
  apply ((panes_within lists).andThen fun panes => within_ok true).tryCatch
  intro e
  split
  · exact within_ok _
  · exact within_ok _
  · exact within_error _

theorem paneOfOutput_within (operation printed : String) :
    Within allowed (paneOfOutput operation printed : Result ω String).run := by
  unfold paneOfOutput
  dsimp only
  split
  · exact within_ok _
  · exact within_error _

theorem titleTab_within (name pane : String)
    (titles : ∀ rest, allowed (command ("set-tab-title" :: rest)))
    (lists : allowed (command ["list", "--format", "json"])) :
    Within allowed (titleTab name pane : Result ω String).run := by
  unfold titleTab
  apply (run_within _ (titles _)).andThen
  intro _
  exact (panes_within lists).andThen fun _ => within_ok _

theorem splitPane_within (pane : String) (direction : Direction) (directory : String)
    (splits : ∀ rest, allowed (command ("split-pane" :: rest))) :
    Within allowed (splitPane pane direction directory : Result ω String).run := by
  unfold splitPane
  exact (run_within "split-pane" (splits _)).andThen fun output => paneOfOutput_within _ _

theorem sendText_within (pane text : String)
    (sends : ∀ rest, allowed (command ("send-text" :: rest))) :
    Within allowed (sendText pane text : Result ω Unit).run := by
  unfold sendText
  exact (run_within "send-text" (sends _)).andThen fun _ => within_ok _

theorem killPane_within (pane : String)
    (kills : ∀ rest, allowed (command ("kill-pane" :: rest))) :
    Within allowed (killPane pane : Result ω Unit).run := by
  unfold killPane
  exact (run_within "kill-pane" (kills _)).andThen fun _ => within_ok _

theorem createWindow_within (name directory : String)
    (lists : allowed (command ["list", "--format", "json"]))
    (spawns : ∀ rest, allowed (command ("spawn" :: rest)))
    (titles : ∀ rest, allowed (command ("set-tab-title" :: rest)))
    (kills : ∀ rest, allowed (command ("kill-pane" :: rest))) :
    Within allowed (createWindow name directory : Result ω Window).run := by
  unfold createWindow
  apply (panes_within lists).andThen
  intro entries
  dsimp only
  split
  · exact within_error _
  apply (run_within "spawn" (spawns _)).andThen
  intro output
  apply (paneOfOutput_within _ _).andThen
  intro pane
  refine Within.andThen ((titleTab_within name pane titles lists).tryCatch fun e => ?_)
    fun _ => within_ok _
  exact (killPane_within pane kills).lift.andThen fun _ => within_error _

theorem killPanes_within (kills : ∀ rest, allowed (command ("kill-pane" :: rest)))
    (entries : List PaneEntry) : Within allowed (killPanes entries : Result ω Unit).run := by
  induction entries with
  | nil => exact within_ok _
  | cons entry rest ih =>
    unfold killPanes
    exact (killPane_within _ kills).andThen fun _ => ih

theorem destroyWindow_within (name : String)
    (lists : allowed (command ["list", "--format", "json"]))
    (kills : ∀ rest, allowed (command ("kill-pane" :: rest))) :
    Within allowed (destroyWindow name : Result ω Unit).run := by
  unfold destroyWindow
  apply (panesIn_within name lists).andThen
  intro entries
  dsimp only
  split
  · exact within_error _
  · exact killPanes_within kills entries

theorem listWindows_within (lists : allowed (command ["list", "--format", "json"])) :
    Within allowed (listWindows : Result ω _).run := by
  unfold listWindows
  exact (panes_within lists).andThen fun panes => within_ok _

theorem listPanes_within (name : String) (lists : allowed (command ["list", "--format", "json"])) :
    Within allowed (listPanes name : Result ω _).run := by
  unfold listPanes
  exact (panesIn_within name lists).andThen fun _ => within_ok _

end Mux.Wezterm

/-! ## Either multiplexer -/

theorem Mux.Kind.name_ne_git (kind : Mux.Kind) : kind.name ≠ "git" := by
  cases kind <;> decide

namespace Multiplexer

open Mux (Direction)

/-- A command for a multiplexer that takes nothing away. -/
def Mild (m : Multiplexer) (c : Command) : Prop :=
  c.program = m.kind.name ∧ ¬ c.Destructive

variable {m : Multiplexer}

theorem mild_tmux (tmux : m.kind = .tmux) {verb : String} (socket : Option String)
    (rest : List String) (plain : verb ≠ "-L") (different : verb ≠ "kill-window") :
    m.Mild (Mux.Tmux.command socket (verb :: rest)) := by
  simp [Mild, Command.Destructive, tmux, Mux.Kind.name, plain, different]

theorem mild_wezterm (wezterm : m.kind = .wezterm) {verb : String} (rest : List String)
    (different : verb ≠ "kill-pane") : m.Mild (Mux.Wezterm.command (verb :: rest)) := by
  simp [Mild, Command.Destructive, wezterm, Mux.Kind.name, different]

/-- A window is made by commands for the multiplexer alone. -/
theorem createWindow_own (name directory : String) (env : Environment) :
    Within (fun c => c.program = m.kind.name)
      (m.createWindow name directory env : Mux.Result ω Mux.Window).run := by
  unfold createWindow
  cases m.kind with
  | tmux => exact Mux.Tmux.createWindow_within _ _ _ rfl fun _ => rfl
  | wezterm =>
    exact Mux.Wezterm.createWindow_within _ _ rfl (fun _ => rfl) (fun _ => rfl) fun _ => rfl

/-- A window is destroyed by commands for the multiplexer alone. -/
theorem destroyWindow_own (name : String) :
    Within (fun c => c.program = m.kind.name) (m.destroyWindow name : Mux.Result ω Unit).run := by
  unfold destroyWindow
  cases m.kind with
  | tmux => exact Mux.Tmux.destroyWindow_within _ rfl fun _ => rfl
  | wezterm => exact Mux.Wezterm.destroyWindow_within _ rfl fun _ => rfl

theorem isRunning_mild : Within m.Mild (m.isRunning : Mux.Result ω Bool).run := by
  unfold isRunning
  cases kind : m.kind with
  | tmux => exact Mux.Tmux.isRunning_within (mild_tmux kind _ _ (by decide) (by decide))
  | wezterm => exact Mux.Wezterm.isRunning_within (mild_wezterm kind _ (by decide))

theorem splitPane_mild (pane : String) (direction : Direction) (directory : String)
    (env : Environment) :
    Within m.Mild (m.splitPane pane direction directory env : Mux.Result ω String).run := by
  unfold splitPane
  cases kind : m.kind with
  | tmux =>
    exact Mux.Tmux.splitPane_within _ _ _ _ fun _ => mild_tmux kind _ _ (by decide) (by decide)
  | wezterm => exact Mux.Wezterm.splitPane_within _ _ _ fun _ => mild_wezterm kind _ (by decide)

theorem sendText_mild (pane text : String) :
    Within m.Mild (m.sendText pane text : Mux.Result ω Unit).run := by
  unfold sendText
  cases kind : m.kind with
  | tmux => exact Mux.Tmux.sendText_within _ _ fun _ => mild_tmux kind _ _ (by decide) (by decide)
  | wezterm => exact Mux.Wezterm.sendText_within _ _ fun _ => mild_wezterm kind _ (by decide)

theorem listWindows_mild : Within m.Mild (m.listWindows : Mux.Result ω _).run := by
  unfold listWindows
  cases kind : m.kind with
  | tmux => exact Mux.Tmux.listWindows_within (mild_tmux kind _ _ (by decide) (by decide))
  | wezterm => exact Mux.Wezterm.listWindows_within (mild_wezterm kind _ (by decide))

theorem windowExists_mild (name : String) :
    Within m.Mild (m.windowExists name : Mux.Result ω Bool).run := by
  unfold windowExists
  exact listWindows_mild.andThen fun windows => within_ok _

theorem listPanes_mild (name : String) :
    Within m.Mild (m.listPanes name : Mux.Result ω _).run := by
  unfold listPanes
  cases kind : m.kind with
  | tmux =>
    exact Mux.Tmux.listPanes_within _ (mild_tmux kind _ _ (by decide) (by decide))
      fun _ => mild_tmux kind _ _ (by decide) (by decide)
  | wezterm => exact Mux.Wezterm.listPanes_within _ (mild_wezterm kind _ (by decide))

end Multiplexer

/-! ## git -/

namespace Worktree

theorem exec_within {c : Command} (allows : allowed c) :
    Within allowed (exec c : Result ω Output).run := by
  unfold exec
  apply (Within.exec allows).lift.andThen
  intro reply
  cases reply with
  | ok output => exact within_ok _
  | error e => exact within_error _

theorem exec_reads (c : Command) :
    Reads (exec c : Result ω Output).run c (·.mapError .spawn) := by
  unfold exec
  apply reads_reply
  intro reply
  cases reply with
  | ok output => rfl
  | error e => rfl

theorem exec_emits (c : Command) :
    Emits (exec c : Result ω Output).run fun events result =>
      ∃ reply, events = [.ran c reply] ∧ result = reply.mapError .spawn :=
  (exec_reads c).emits

end Worktree

namespace Repository

open Worktree (Result)

variable {r : Repository}

theorem list_within (lists : allowed (r.git ["worktree", "list", "--porcelain"])) :
    Within allowed (r.list : Result ω _).run := by
  unfold list Worktree.listFrom
  apply (Worktree.exec_within lists).andThen
  intro output
  split
  · exact within_ok _
  · exact within_error _

theorem branchExists_within {branch : String}
    (asks : allowed (r.git ["show-ref", "--quiet", "--verify", "refs/heads/" ++ branch])) :
    Within allowed (r.branchExists branch : Result ω Bool).run := by
  unfold branchExists
  exact (Worktree.exec_within asks).andThen fun output => within_ok _

theorem findWorktree_within (branch : String)
    (lists : allowed (r.git ["worktree", "list", "--porcelain"])) :
    Within allowed (r.findWorktree branch : Result ω _).run := by
  unfold findWorktree
  exact (list_within lists).andThen fun entries => within_ok _

/-- The worktrees that a reply lists. -/
def entriesOfReply (r : Repository) (reply : Reply) :
    Except Worktree.Error (List Worktree.Entry) :=
  (reply.mapError .spawn).bind fun output =>
    if output.success then .ok (Worktree.entriesOfListing output.stdout)
    else .error (.notARepository r.root)

theorem entriesOfReply_output (r : Repository) (output : Output) :
    r.entriesOfReply (.ok output) =
      if output.success then .ok (Worktree.entriesOfListing output.stdout)
      else .error (.notARepository r.root) := rfl

theorem list_reads : Reads (r.list : Result ω (List Worktree.Entry)).run
    (r.git ["worktree", "list", "--porcelain"]) r.entriesOfReply := by
  unfold list Worktree.listFrom
  refine (Worktree.exec_reads _).output (fun output => ?_) fun e => rfl
  rw [entriesOfReply_output]
  split
  · rfl
  · rfl

theorem list_emits :
    Emits (r.list : Result ω (List Worktree.Entry)).run fun events result =>
      ∃ reply, events = [.ran (r.git ["worktree", "list", "--porcelain"]) reply] ∧
        result = r.entriesOfReply reply :=
  list_reads.emits

/-- Whether there is a branch is asked by one command, which succeeds exactly if there is. -/
theorem branchExists_reads (branch : String) : Reads (r.branchExists branch : Result ω Bool).run
    (r.git ["show-ref", "--quiet", "--verify", "refs/heads/" ++ branch])
      fun reply => (reply.mapError .spawn).map Output.success := by
  unfold branchExists
  exact (Worktree.exec_reads _).output (fun output => rfl) fun e => rfl

theorem branchExists_emits (branch : String) :
    Emits (r.branchExists branch : Result ω Bool).run fun events result =>
      ∃ reply, events =
          [.ran (r.git ["show-ref", "--quiet", "--verify", "refs/heads/" ++ branch]) reply] ∧
        result = (reply.mapError .spawn).map Output.success :=
  (branchExists_reads branch).emits

theorem entriesOfReply_ok {reply : Reply} {entries : List Worktree.Entry}
    (told : .ok entries = r.entriesOfReply reply) :
    ∃ output, reply = .ok output ∧ output.success ∧
      Worktree.entriesOfListing output.stdout = entries := by
  cases reply with
  | error e => cases told
  | ok output =>
    rw [entriesOfReply_output] at told
    by_cases success : output.success = true
    · simp only [success, ↓reduceIte] at told
      cases told
      exact ⟨output, rfl, success, rfl⟩
    · simp only [success, Bool.false_eq_true, ↓reduceIte] at told
      cases told

/-- Whatever the trouble with a listing is, it is not that a branch exists. -/
theorem entriesOfReply_error {reply : Reply} {e : Worktree.Error}
    (told : .error e = r.entriesOfReply reply) (name : String) : e ≠ .branchExists name := by
  cases reply with
  | error spawn =>
    cases told
    exact fun same => by cases same
  | ok output =>
    rw [entriesOfReply_output] at told
    split at told
    · cases told
    · cases told
      exact fun same => by cases same

theorem branchExists_ok {reply : Reply} {found : Bool}
    (told : .ok found = (reply.mapError Worktree.Error.spawn).map Output.success) :
    ∃ output, reply = .ok output ∧ output.success = found := by
  cases reply with
  | ok output => cases told; exact ⟨output, rfl, rfl⟩
  | error e => cases told

theorem create_within {branch : String}
    (asks : allowed (r.git ["show-ref", "--quiet", "--verify", "refs/heads/" ++ branch]))
    (lists : allowed (r.git ["worktree", "list", "--porcelain"]))
    (adds : allowed (r.git ["worktree", "add", "-b", branch, r.worktreePath branch])) :
    Within allowed (r.create branch : Result ω String).run := by
  unfold create
  apply (branchExists_within asks).andThen
  intro found
  dsimp only
  split
  · rw [throw_bind]
    exact within_error _
  apply (Within.pathExists _).lift.andThen
  intro there
  split
  · exact (list_within lists).andThen fun entries => within_error _
  apply (Within.makeDirectories _).lift.andThen
  intro made
  cases made with
  | error e => exact within_error _
  | ok _ =>
    apply (Worktree.exec_within adds).andThen
    intro output
    split
    · exact within_ok _
    · exact within_error _

theorem prune_within (prunes : allowed (r.git ["worktree", "prune"])) :
    Within allowed (r.prune : Result ω Unit).run := by
  unfold prune
  apply (Worktree.exec_within prunes).andThen
  intro output
  split
  · exact within_error _
  · exact within_ok _

theorem remove_within {branch : String} (force : Bool)
    (lists : allowed (r.git ["worktree", "list", "--porcelain"]))
    (removes : ∀ rest, allowed (r.git ("worktree" :: "remove" :: rest)))
    (prunes : allowed (r.git ["worktree", "prune"])) :
    Within allowed (r.remove branch force : Result ω Unit).run := by
  unfold remove
  apply (findWorktree_within branch lists).andThen
  intro entry?
  cases entry? with
  | none => exact within_error _
  | some entry =>
    dsimp only
    split
    · exact within_error _
    apply (Within.pathExists _).lift.andThen
    intro there
    split
    · apply (Worktree.exec_within (removes _)).andThen
      intro output
      split
      · exact within_error _
      · exact within_ok _
    · exact prune_within prunes

theorem deleteBranch_within {branch : String} (force : Bool)
    (asks : allowed (r.git ["show-ref", "--quiet", "--verify", "refs/heads/" ++ branch]))
    (deletes : ∀ rest, allowed (r.git ("branch" :: rest))) :
    Within allowed (r.deleteBranch branch force : Result ω Unit).run := by
  unfold deleteBranch
  apply (branchExists_within asks).andThen
  intro found
  dsimp only
  split
  · exact within_error _
  apply (Worktree.exec_within (deletes _)).andThen
  intro output
  split
  · split
    · exact within_error _
    · exact within_error _
  · exact within_ok _

theorem validateBranchName_within {branch : String}
    (asks : allowed (r.git ["check-ref-format", "--branch", branch])) :
    Within allowed (r.validateBranchName branch : Result ω Unit).run := by
  unfold validateBranchName
  dsimp only
  split
  · exact within_error _
  · apply (Worktree.exec_within asks).andThen
    intro output
    split
    · exact within_error _
    · exact within_ok _

end Repository

theorem Lifecycle.Remove.lookUp_within {setup : Setup} {branch : String}
    (lists : allowed (setup.repository.git ["worktree", "list", "--porcelain"]))
    (asks : allowed
      (setup.repository.git ["show-ref", "--quiet", "--verify", "refs/heads/" ++ branch])) :
    Within allowed (lookUp setup branch : Worktree.Result ω _).run := by
  unfold lookUp
  apply (Repository.findWorktree_within branch lists).andThen
  intro entry
  exact (Repository.branchExists_within asks).andThen fun found => within_ok _

end Worktop

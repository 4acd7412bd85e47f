import Worktop.Proofs.Delivery
import Worktop.Proofs.Shell.Reading

/-! # How variables reach panes

A workspace passes two variables on to its hooks and its panes. In tmux each command that makes a
pane has them as arguments (`Worktop.Multiplexer.Spawns.settings_suffix`); WezTerm is told nothing of
them (`Worktop.Multiplexer.Spawns.not_carries`), so there they are set in front of each command that
is typed. Main statement: `Worktop.Lifecycle.variables_reach_panes_once`.
-/

namespace Worktop

open Event (ranAs)
open Shell (words?)

variable {ω : Type}

/-- A command hands a variable over: it is run with it, or has it as an argument for what it
starts. -/
def Command.Carries (c : Command) (v : String × String) : Prop :=
  v ∈ c.env ∨ ["-e", v.1 ++ "=" ++ v.2] <:+: c.args

/-- The variables of a workspace, each as one text. -/
def Workspace.settings (w : Workspace) : List String :=
  ["TIDYMUX_BRANCH=" ++ w.branch, "TIDYMUX_WORKTREE=" ++ w.worktreePath]

namespace Workspace

theorem settings_eq (w : Workspace) : w.env.map (fun v => v.1 ++ "=" ++ v.2) = w.settings := rfl

/-- Whatever is in the values, a setting says which variable it is of. -/
theorem splitFirst?_settings (w : Workspace) :
    w.settings.map (Text.splitFirst? '=') = w.env.map some := by
  have branch : '=' ∉ "TIDYMUX_BRANCH".toList := by decide
  have worktree : '=' ∉ "TIDYMUX_WORKTREE".toList := by decide
  simp only [settings, env, List.map_cons, List.map_nil]
  exact congrArg₂ (fun first second => [first, second]) (Text.splitFirst?_append branch w.branch)
    (Text.splitFirst?_append worktree w.worktreePath)

theorem names_env (w : Workspace) : ∀ v ∈ w.env, Shell.isName v.1.toList = true := by
  simp only [env, List.forall_mem_cons]
  exact ⟨by decide, by decide, nofun⟩

end Workspace

namespace Multiplexer

variable {m : Multiplexer} {directory current : String} {env : Environment} {c : Command}
  {specs : List PaneSpec} {splits : List (Command × Reply)} {panes : List String}
  {orders : List (String × String)}

/-- A command that makes a window, or splits a pane off. -/
inductive Spawns (m : Multiplexer) (directory : String) (env : Environment) : Command → Prop
  | window (name : String) : Spawns m directory env (m.windowCommand name directory env)
  | split (origin : String) (direction : Mux.Direction) :
      Spawns m directory env (m.splitCommand origin direction directory env)

theorem LaysOut.spawns (laysOut : m.LaysOut directory env current specs splits panes orders) :
    ∀ ran ∈ splits, m.Spawns directory env ran.1 := by
  induction laysOut with
  | done current => exact nofun
  | reuse whole rest ih => exact ih
  | split parts made rest ih => exact List.forall_mem_cons.mpr ⟨.split _ _, ih⟩

/-- In tmux the variables are the last arguments, in order. -/
theorem Spawns.settings_suffix (spawns : m.Spawns directory env c) (kind : m.kind = .tmux) :
    (env.map fun v => v.1 ++ "=" ++ v.2).flatMap (["-e", ·]) <:+ c.args := by
  have last : ∀ front, Mux.Tmux.envArgs env <:+
      (Mux.Tmux.command m.socket (front ++ Mux.Tmux.envArgs env)).args := by
    intro front
    cases socket : m.socket with
    | none => exact List.suffix_append _ _
    | some name => exact (List.suffix_append _ _).trans (List.suffix_append ["-L", name] _)
  rw [List.flatMap_map]
  cases spawns with
  | window name =>
    unfold windowCommand
    rw [kind]
    exact last _
  | split origin direction =>
    unfold splitCommand
    rw [kind]
    cases direction with
    | horizontal => exact last _
    | vertical => exact last _

/-- WezTerm is handed no variable. -/
theorem Spawns.not_carries (spawns : m.Spawns directory env c) (kind : m.kind = .wezterm)
    (v : String × String) : ¬ c.Carries v := by
  -- A setting has an equals sign in it, and so is not the option after the name of a pane.
  have plain : ∀ option : String, '=' ∉ option.toList → option ≠ v.1 ++ "=" ++ v.2 := by
    rintro _ absent rfl
    exact absent (by simp)
  have right := plain "--right" (by decide)
  have bottom := plain "--bottom" (by decide)
  cases spawns with
  | window name =>
    unfold windowCommand
    rw [kind]
    simp [Command.Carries, Mux.Wezterm.command, List.infix_cons_iff, List.cons_prefix_cons]
  | split origin direction =>
    unfold splitCommand
    rw [kind]
    cases direction <;>
      simp [Command.Carries, Mux.Wezterm.command, List.infix_cons_iff, List.cons_prefix_cons,
        right.symm, bottom.symm]

end Multiplexer

namespace Lifecycle

open Act (RunsOnly)

variable {setup : Setup} {branch : String} {config : Config} {host : Host ω}
  {s reached : Session ω} {orders : List (String × String)} {progress : Progress}

namespace Add

/-- Where commands come to be delivered, all panes were made for the workspace, and nothing has been
typed yet. -/
theorem Reaches.spawns (reaches : Reaches setup branch config host s orders progress reached) :
    ∃ events, reached.journal = events ++ s.journal ∧ ranAs .send events = [] ∧
      ∀ ran ∈ ranAs .window events ++ ranAs .split events,
        setup.mux.Spawns (setup.workspace branch).worktreePath (setup.workspace branch).env
          ran.1 := by
  obtain ⟨events, first, splits, panes, journal, unfolded, -, later, laysOut⟩ := reaches.unfolded
  obtain ⟨reply, alone, -⟩ := unfolded.window
  refine ⟨events, journal, unfolded.unsent, ?_⟩
  rw [alone, unfolded.splits]
  exact List.forall_mem_cons.mpr ⟨.window _, laysOut.spawns⟩

/-- All that an addition does for panes before it is ready: it makes them for the workspace, and
then types launch texts into them. -/
theorem ready_spawns (ready : ((add setup branch config).perform host s).1.state = .ready) :
    ∃ events orders sent,
      ((add setup branch config).perform host s).2.journal = events ++ s.journal ∧
      Sends setup (setup.workspace branch) orders sent events ∧
      ∀ ran ∈ ranAs .window events ++ ranAs .split events,
        setup.mux.Spawns (setup.workspace branch).worktreePath (setup.workspace branch).env
          ran.1 := by
  obtain ⟨orders, progress, reached, reaches⟩ := reaches_of_ready ready
  obtain ⟨earlier, journal, unsent, spawns⟩ := reaches.spawns
  obtain ⟨later, sent, journal', sends, only, -⟩ := reaches.ends
  refine ⟨later ++ earlier, orders, sent, ?_, ⟨sends.planned, sends.delivers, ?_⟩, ?_⟩
  · rw [journal', journal, List.append_assoc]
  · rw [Event.ranAs_append, unsent]
    exact sends.ran
  · rw [Event.ranAs_append_of_role (by decide) only, Event.ranAs_append_of_role (by decide) only]
    exact spawns

/-- An addition that is ready has run all its hooks, in order. -/
theorem ready_hooks {events : List Event}
    (journal : ((add setup branch config).perform host s).2.journal = events ++ s.journal)
    (ready : ((add setup branch config).perform host s).1.state = .ready) :
    (ranAs .hook events).map Prod.fst = config.postCreate.map (hookCommand setup branch) := by
  obtain ⟨events', orderly⟩ := add_orderly setup branch config host s
  obtain rfl : events' = events := List.append_cancel_right (orderly.journal.symm.trans journal)
  have ran := (orderly.ready ready).hooksDone.ran
  rwa [List.take_length] at ran

end Add

/-- The texts that are typed have settings in front of the shell just where the multiplexer hands
over none. -/
theorem words_of_sent {workspace : Workspace} {sent : List Delivery} {events : List Event}
    (sends : Add.Sends setup workspace orders sent events) {d : Delivery} (member : d ∈ sent) :
    ∃ rest, words? d.text = some ("exec" ::
      (if setup.mux.capabilities.paneEnv then [] else "env" :: workspace.settings) ++
        setup.shell.path :: rest) := by
  have planned := List.mem_map_of_mem (f := fun d : Delivery => (d.pane, d.text)) member
  rw [sends.planned] at planned
  obtain ⟨⟨pane, command⟩, -, same⟩ := List.mem_map.mp planned
  obtain ⟨-, text⟩ := Prod.mk.inj same
  have read := LoginShell.words?_launchText setup.shell command setup.mux.capabilities
    workspace.names_env
  rw [← text, read, workspace.settings_eq]
  cases setup.mux.capabilities.paneEnv with
  | true => exact ⟨_, rfl⟩
  | false => exact ⟨_, rfl⟩

/-- **Variables reach panes in just one way.** Where an addition ends ready, tmux was handed the
variables of the workspace with the window and with each pane that was split off, and no text that
was typed sets them; in WezTerm it is the other way round. The settings are of the variables that
the hooks were run with, whatever characters are in the values. -/
theorem variables_reach_panes_once
    (ready : ((add setup branch config).perform host s).1.state = .ready)
    (unlimited : setup.mux.limits = none) :
    let ended := (add setup branch config).perform host s
    let settings := (setup.workspace branch).settings
    ∃ events orders sent, ended.2.journal = events ++ s.journal ∧
      Add.Sends setup (setup.workspace branch) orders sent events ∧
      ((ranAs .hook events).map Prod.fst = config.postCreate.map (Add.hookCommand setup branch) ∧
        ∀ ran ∈ ranAs .hook events, settings.map (Text.splitFirst? '=') = ran.1.env.map some) ∧
      (setup.mux.kind = .tmux →
        (∀ ran ∈ ranAs .window events ++ ranAs .split events,
          settings.flatMap (["-e", ·]) <:+ ran.1.args) ∧
        ∀ d ∈ sent, ∃ rest, words? d.text = some ("exec" :: setup.shell.path :: rest)) ∧
      (setup.mux.kind = .wezterm →
        (∀ ran ∈ ranAs .window events ++ ranAs .split events, ∀ v, ¬ ran.1.Carries v) ∧
        ∀ d ∈ sent, ∃ rest,
          words? d.text = some ("exec" :: "env" :: settings ++ setup.shell.path :: rest)) := by
  obtain ⟨events, orders, sent, journal, sends, spawns⟩ := Add.ready_spawns ready
  have hooks := Add.ready_hooks journal ready
  refine ⟨events, orders, sent, journal, sends, ⟨hooks, ?_⟩, fun kind => ⟨?_, ?_⟩,
    fun kind => ⟨?_, ?_⟩⟩
  · intro ran member
    have command := List.mem_map_of_mem (f := Prod.fst) member
    rw [hooks] at command
    obtain ⟨hook, -, same⟩ := List.mem_map.mp command
    rw [← same]
    exact Workspace.splitFirst?_settings _
  · exact fun ran member => (spawns ran member).settings_suffix kind
  · intro d member
    have handsOver : setup.mux.capabilities.paneEnv = true := by
      simp [Multiplexer.capabilities, unlimited, kind]
    obtain ⟨rest, read⟩ := words_of_sent sends member
    rw [if_pos handsOver] at read
    exact ⟨rest, read⟩
  · exact fun ran member => (spawns ran member).not_carries kind
  · intro d member
    have handsOverNone : ¬ setup.mux.capabilities.paneEnv = true := by
      simp [Multiplexer.capabilities, unlimited, kind]
    obtain ⟨rest, read⟩ := words_of_sent sends member
    rw [if_neg handsOverNone] at read
    exact ⟨rest, read⟩

/-- WezTerm, and blanks in paths. -/
def spacious : Setup where
  repository := { root := "my repo", base := "my trees" }
  mux := { kind := .wezterm }
  shell := { path := "/my shell" }

/-- A hook, and two panes with a command each. -/
def hookedPanes : Config where
  postCreate := ["make setup"]
  panes := [{ command := some "make" }, { command := some "top", split := some .horizontal }]

/-- All goes well, and both panes are shown. -/
def obliging : Session Script where
  outside :=
    let tells (stdout : String) : Cue := { outcome := .ok { stdout } }
    let absent : Cue := { outcome := .ok { exitCode := some 1 } }
    let shown := "[\x7b\"tab_id\": 3, \"pane_id\": 7, \"tab_title\": \"tm-demo\"\x7d, " ++
      "\x7b\"tab_id\": 3, \"pane_id\": 8, \"tab_title\": \"tm-demo\"\x7d]"
    [tells "[]", {}, absent, tells "[]", absent, {}, tells "[]", tells "7\n", {}, tells "[]", {},
      tells "8\n", tells shown, {}, {}]

theorem obliging_variables_reach_panes_once :
    let ended := (add spacious "demo" hookedPanes).perform Script.host obliging
    let settings := ["TIDYMUX_BRANCH=demo", "TIDYMUX_WORKTREE=my trees/demo"]
    ended.1.state = .ready ∧ ended.1.warnings = [] ∧ ended.1.panes = ["7", "8"] ∧
      ∃ events orders sent, ended.2.journal = events ++ [] ∧
        Add.Sends spacious (spacious.workspace "demo") orders sent events ∧
        (∀ ran ∈ ranAs .hook events, settings.map (Text.splitFirst? '=') = ran.1.env.map some) ∧
        (∀ ran ∈ ranAs .window events ++ ranAs .split events, ∀ v, ¬ ran.1.Carries v) ∧
        ∀ d ∈ sent, ∃ rest, words? d.text = some ("exec" :: "env" :: settings ++
          "/my shell" :: rest) := by
  have ready : ((add spacious "demo" hookedPanes).perform Script.host obliging).1.state =
      .ready := by
    decide +kernel
  have settings : (spacious.workspace "demo").settings =
      ["TIDYMUX_BRANCH=demo", "TIDYMUX_WORKTREE=my trees/demo"] := by
    decide +kernel
  obtain ⟨events, orders, sent, journal, sends, ⟨-, hooks⟩, -, wezterm⟩ :=
    variables_reach_panes_once ready rfl
  obtain ⟨spawned, typed⟩ := wezterm rfl
  rw [settings] at hooks typed
  exact ⟨ready, by decide +kernel, by decide +kernel, events, orders, sent, journal, sends, hooks,
    spawned, typed⟩

end Lifecycle

end Worktop

import Worktop.Proofs.InTurn
import Worktop.Proofs.Justification

/-! # What commands are for

An addition makes a window, runs hooks, splits panes off and types into panes. Commands for that are
told from all others by their role (`Worktop.Command.role?`), and the operations of the multiplexers
by the roles of the commands that they run and by what came back.
-/

namespace Worktop

open Act

variable {ω : Type}

/-- What a command does for a new workspace. -/
inductive Role where
  | window
  | hook
  | split
  | send
  deriving DecidableEq, Repr

namespace Command

/-- What a command does for a new workspace, if anything. -/
def role? (c : Command) : Option Role :=
  match c.program, c.words.head? with
  | "/bin/sh", _ => some .hook
  | "tmux", some "new-window" | "wezterm", some "spawn" => some .window
  | "tmux", some "split-window" | "wezterm", some "split-pane" => some .split
  | "tmux", some "send-keys" | "wezterm", some "send-text" => some .send
  | _, _ => none

/-- A command that does nothing for a new workspace. -/
def Idle (c : Command) : Prop := c.role? = none

theorem Idle.role_ne {c : Command} (idle : c.Idle) (role : Role) : c.role? ≠ some role := by
  rw [idle]
  exact nofun

theorem idle_git (directory : String) (args : List String) :
    (Worktree.git directory args).Idle := by
  simp [Idle, role?]

theorem role?_tmux (socket : Option String) {verb : String} (rest : List String)
    (plain : verb ≠ "-L") :
    (Mux.Tmux.command socket (verb :: rest)).role? =
      if verb = "new-window" then some .window
      else if verb = "split-window" then some .split
      else if verb = "send-keys" then some .send
      else none := by
  simp [role?, plain]
  split <;> simp_all

theorem role?_wezterm (verb : String) (rest : List String) :
    (Mux.Wezterm.command (verb :: rest)).role? =
      if verb = "spawn" then some .window
      else if verb = "split-pane" then some .split
      else if verb = "send-text" then some .send
      else none := by
  simp [role?]
  split <;> simp_all

theorem idle_tmux (socket : Option String) {verb : String} (rest : List String)
    (plain : verb ∉ ["-L", "new-window", "split-window", "send-keys"]) :
    (Mux.Tmux.command socket (verb :: rest)).Idle := by
  simp only [List.mem_cons, List.not_mem_nil, or_false, not_or] at plain
  obtain ⟨socketless, opens, splits, sends⟩ := plain
  simp [Idle, role?_tmux socket rest socketless, opens, splits, sends]

theorem idle_wezterm {verb : String} (rest : List String)
    (plain : verb ∉ ["spawn", "split-pane", "send-text"]) :
    (Mux.Wezterm.command (verb :: rest)).Idle := by
  simp only [List.mem_cons, List.not_mem_nil, or_false, not_or] at plain
  obtain ⟨opens, splits, sends⟩ := plain
  simp [Idle, role?_wezterm, opens, splits, sends]

end Command

open Command (Idle idle_tmux idle_wezterm)

namespace Event

/-- The commands of a role that were run, each with its reply, in order. -/
def ranAs (role : Role) (events : List Event) : List (Command × Reply) :=
  (events.filterMap fun
    | ran c reply => if c.role? = some role then some (c, reply) else none
    | _ => none).reverse

variable {role : Role}

theorem ranAs_append (new old : List Event) :
    ranAs role (new ++ old) = ranAs role old ++ ranAs role new := by
  simp [ranAs]

theorem ranAs_cons_of_role {c : Command} (same : c.role? = some role) (reply : Reply)
    (old : List Event) : ranAs role (.ran c reply :: old) = ranAs role old ++ [(c, reply)] := by
  simp [ranAs, same]

theorem mem_ranAs {c : Command} {reply : Reply} {events : List Event}
    (same : c.role? = some role) (member : .ran c reply ∈ events) :
    (c, reply) ∈ ranAs role events :=
  List.mem_reverse.mpr (List.mem_filterMap.mpr ⟨_, member, if_pos same⟩)

/-- Commands of other roles do not count. -/
theorem ranAs_append_of_other {new : List Event} (other : RunsOnly (·.role? ≠ some role) new)
    (old : List Event) : ranAs role (new ++ old) = ranAs role old := by
  have none : ranAs role new = [] := by
    unfold ranAs
    rw [List.reverse_eq_nil_iff, List.filterMap_eq_nil_iff]
    intro event member
    cases event with
    | ran c reply => exact if_neg (other c reply member)
    | _ => rfl
  rw [ranAs_append, none, List.append_nil]

theorem ranAs_append_of_idle {new : List Event} (idle : RunsOnly Idle new) (old : List Event) :
    ranAs role (new ++ old) = ranAs role old :=
  ranAs_append_of_other (idle.imp fun _ idle => idle.role_ne role) old

theorem ranAs_append_of_role {other : Role} {new : List Event} (different : role ≠ other)
    (runs : RunsOnly (·.role? = some other) new) (old : List Event) :
    ranAs role (new ++ old) = ranAs role old := by
  refine ranAs_append_of_other (runs.imp fun c same => ?_) old
  rw [same]
  exact fun same => different (Option.some.inj same).symm

theorem ranAs_cons_of_other {c : Command} (other : c.role? ≠ some role) (reply : Reply)
    (old : List Event) : ranAs role (.ran c reply :: old) = ranAs role old := by
  simp [ranAs, other]

end Event

/-! ## Windows -/

namespace Multiplexer

/-- The first pane of the window that a reply says was made, if one was. -/
def firstPaneOfReply? (m : Multiplexer) (name : String) : Reply → Option String
  | .error _ => none
  | .ok output =>
    let printed := Text.trim output.stdout
    if !output.success then none
    else match m.kind with
      | .tmux => (Mux.Tmux.windowOfOutput? name printed).map (·.pane)
      | .wezterm => Mux.paneName? printed

theorem succeeded_of_firstPane {m : Multiplexer} {name pane : String} {reply : Reply}
    (told : m.firstPaneOfReply? name reply = some pane) : reply.Succeeded := by
  cases reply with
  | error e => cases told
  | ok output =>
    cases success : output.success with
    | true => exact ⟨output, rfl, success⟩
    | false => simp [firstPaneOfReply?, success] at told

/-- The command that makes a window. -/
def windowCommand (m : Multiplexer) (name directory : String) (env : Environment) : Command :=
  match m.kind with
  | .tmux => Mux.Tmux.command m.socket
    (["new-window", "-P", "-F", "#\x7bwindow_id\x7d #\x7bpane_id\x7d", "-n", name, "-c", directory]
      ++ Mux.Tmux.envArgs env)
  | .wezterm => Mux.Wezterm.command ["spawn", "--new-window", "--cwd", directory]

theorem role?_windowCommand (m : Multiplexer) (name directory : String) (env : Environment) :
    (m.windowCommand name directory env).role? = some .window := by
  unfold windowCommand
  cases m.kind with
  | tmux => exact Command.role?_tmux _ _ (by decide)
  | wezterm => exact Command.role?_wezterm _ _

/-- A window is made by one command at most, whose reply tells its first pane. -/
inductive Opening (m : Multiplexer) (name directory : String) (env : Environment) :
    List Event → Except Mux.Error Mux.Window → Prop
  | unopened {events : List Event} (idle : RunsOnly Idle events) (e : Mux.Error) :
      Opening m name directory env events (.error e)
  | opened {new old : List Event} {reply : Reply} {result : Except Mux.Error Mux.Window}
      (later : RunsOnly Idle new) (earlier : RunsOnly Idle old)
      (told : ∀ window, result = .ok window →
        m.firstPaneOfReply? name reply = some window.pane) :
      Opening m name directory env
        (new ++ .ran (m.windowCommand name directory env) reply :: old) result

end Multiplexer

namespace Mux

variable {m : Multiplexer}

theorem Tmux.createWindow_opening (kind : m.kind = .tmux) (name directory : String)
    (env : Environment) :
    Emits (Tmux.createWindow m.socket name directory env : Result ω Window).run
      (m.Opening name directory env) := by
  have command : m.windowCommand name directory env = Tmux.command m.socket (["new-window", "-P",
      "-F", "#\x7bwindow_id\x7d #\x7bpane_id\x7d", "-n", name, "-c", directory] ++
        Tmux.envArgs env) := by
    simp [Multiplexer.windowCommand, kind]
  unfold Tmux.createWindow
  rw [← command]
  have lists : Only (Tmux.windowIds m.socket name : Result ω _).run Idle :=
    (Tmux.windowIds_within name (idle_tmux _ _ (by decide))).only
  refine Emits.andThen lists ?_ fun e old idle => .unopened idle e
  intro ids old idle
  dsimp only
  split
  · exact emits_error (.unopened idle _)
  refine (Tmux.run_emits _ _).andThen ?_ ?_
  · intro output new given
    obtain ⟨reply, rfl, told⟩ := given
    obtain ⟨rfl, success⟩ := told output rfl
    split
    · rename_i window printed
      refine emits_ok (.opened Composable.nil idle fun _ same => ?_)
      cases same
      simp [Multiplexer.firstPaneOfReply?, success, kind, printed]
    · exact emits_error (.opened Composable.nil idle nofun)
  · intro e new given
    obtain ⟨reply, rfl, -⟩ := given
    exact .opened Composable.nil idle nofun

theorem Wezterm.createWindow_opening (kind : m.kind = .wezterm) (name directory : String)
    (env : Environment) :
    Emits (Wezterm.createWindow name directory : Result ω Window).run
      (m.Opening name directory env) := by
  have spawning : m.windowCommand name directory env = Wezterm.spawning directory := by
    simp [Multiplexer.windowCommand, kind]
  have lists : Idle Wezterm.listing := idle_wezterm _ (by decide)
  have titles (pane : String) : Idle (Wezterm.titling name pane) := idle_wezterm _ (by decide)
  have kills (pane : String) : Idle (Wezterm.killing pane) := idle_wezterm _ (by decide)
  have first (reply : Reply) : RunsOnly Idle [.ran Wezterm.listing reply] := runsOnly_ran lists reply
  refine (Wezterm.createWindow_created name directory).mono fun events result created => ?_
  cases created with
  | unspawned reply e => exact .unopened (first reply) e
  | unnamed none reply e =>
    rw [← spawning]
    exact .opened Composable.nil (first reply) nofun
  | kept named titled reply =>
    rw [← spawning]
    refine .opened (titled.runs (titles _) lists) (first reply) fun window same => ?_
    cases same
    obtain ⟨output, rfl, success, printed⟩ := Wezterm.spawnedPane?_eq_some_iff.mp named
    simp [Multiplexer.firstPaneOfReply?, success, kind, printed]
  | killed named untitled reply last =>
    rw [← spawning]
    refine .opened (Composable.append (runsOnly_ran (kills _) last) ?_) (first reply) nofun
    exact untitled.runs (titles _) lists

end Mux

theorem Multiplexer.createWindow_opening (m : Multiplexer) (name directory : String)
    (env : Environment) :
    Emits (m.createWindow name directory env : Mux.Result ω Mux.Window).run
      (m.Opening name directory env) := by
  unfold createWindow
  cases kind : m.kind with
  | tmux => exact Mux.Tmux.createWindow_opening kind _ _ _
  | wezterm => exact Mux.Wezterm.createWindow_opening kind _ _ _

/-! ## Panes -/

/-- The pane that a reply says was split off, if one was. -/
def Multiplexer.paneOfReply? (m : Multiplexer) : Reply → Option String
  | .error _ => none
  | .ok output =>
    let printed := Text.trim output.stdout
    if !output.success then none
    else match m.kind with
      | .tmux => if printed.toList.head? = some '%' then some printed else none
      | .wezterm => Mux.paneName? printed

/-- The command that splits a pane off another one. -/
def Multiplexer.splitCommand (m : Multiplexer) (origin : String) (direction : Mux.Direction)
    (directory : String) (env : Environment) : Command :=
  match m.kind, direction with
  | .tmux, .horizontal => Mux.Tmux.command m.socket
    (["split-window", "-h", "-t", origin, "-c", directory, "-P", "-F", "#{pane_id}"] ++
      Mux.Tmux.envArgs env)
  | .tmux, .vertical => Mux.Tmux.command m.socket
    (["split-window", "-v", "-t", origin, "-c", directory, "-P", "-F", "#{pane_id}"] ++
      Mux.Tmux.envArgs env)
  | .wezterm, .horizontal => Mux.Wezterm.command
    ["split-pane", "--pane-id", origin, "--right", "--cwd", directory]
  | .wezterm, .vertical => Mux.Wezterm.command
    ["split-pane", "--pane-id", origin, "--bottom", "--cwd", directory]

theorem Multiplexer.role?_splitCommand (m : Multiplexer) (origin : String)
    (direction : Mux.Direction) (directory : String) (env : Environment) :
    (m.splitCommand origin direction directory env).role? = some .split := by
  unfold splitCommand
  cases m.kind <;> cases direction
  · exact Command.role?_tmux _ _ (by decide)
  · exact Command.role?_tmux _ _ (by decide)
  · exact Command.role?_wezterm _ _
  · exact Command.role?_wezterm _ _

/-- A pane is split off by one command, and is the one that the reply tells. -/
theorem Multiplexer.splitPane_emits (m : Multiplexer) (origin : String)
    (direction : Mux.Direction) (directory : String) (env : Environment) :
    Emits (m.splitPane origin direction directory env : Mux.Result ω String).run
      fun events result => ∃ reply,
        events = [.ran (m.splitCommand origin direction directory env) reply] ∧
        ∀ made, result = .ok made → m.paneOfReply? reply = some made := by
  unfold splitPane splitCommand paneOfReply?
  cases m.kind with
  | tmux =>
    unfold Mux.Tmux.splitPane
    refine (Mux.Tmux.run_emits _ _).andThen ?_ ?_
    · intro output old given
      obtain ⟨reply, rfl, told⟩ := given
      obtain ⟨rfl, success⟩ := told output rfl
      dsimp only
      split
      · rename_i printed
        refine emits_ok ⟨_, by cases direction <;> rfl, fun _ same => ?_⟩
        cases same
        simp only [success, printed, Bool.not_true, Bool.false_eq_true, ↓reduceIte]
      · exact emits_error ⟨_, by cases direction <;> rfl, nofun⟩
    · intro e old given
      obtain ⟨reply, rfl, -⟩ := given
      exact ⟨_, by cases direction <;> rfl, nofun⟩
  | wezterm =>
    refine (Mux.Wezterm.splitPane_reads _ _ _).emits.mono fun events result given => ?_
    obtain ⟨reply, rfl, told⟩ := given
    refine ⟨reply, by cases direction <;> rfl, fun made same => ?_⟩
    obtain ⟨output, answered, named⟩ := exists_of_bind_eq_ok (told.symm.trans same)
    obtain ⟨rfl, success⟩ := Mux.Wezterm.resultOf_eq_ok answered
    have printed := Mux.Wezterm.toOption_paneNamed "split-pane" output.stdout
    rw [named] at printed
    simp [success, ← printed, Except.toOption]

theorem Multiplexer.sendText_within (m : Multiplexer) (pane text : String) :
    Within (fun c => c.role? = some .send) (m.sendText pane text : Mux.Result ω Unit).run := by
  unfold sendText
  cases m.kind with
  | tmux => exact Mux.Tmux.sendText_within _ _ fun _ => Command.role?_tmux _ _ (by decide)
  | wezterm => exact Mux.Wezterm.sendText_within _ _ fun _ => Command.role?_wezterm _ _

theorem Multiplexer.destroyWindow_idle (m : Multiplexer) (name : String) :
    Within Idle (m.destroyWindow name : Mux.Result ω Unit).run := by
  unfold destroyWindow
  cases m.kind with
  | tmux =>
    exact Mux.Tmux.destroyWindow_within _ (idle_tmux _ _ (by decide))
      fun _ => idle_tmux _ _ (by decide)
  | wezterm =>
    exact Mux.Wezterm.destroyWindow_within _ (idle_wezterm _ (by decide))
      fun _ => idle_wezterm _ (by decide)

/-! ## Listings of panes -/

/-- The panes of windows of tmux were asked for, one window after another, latest first. -/
inductive Mux.Tmux.Listed (socket : Option String) : List String → List Event → List String → Prop
  | none : Listed socket [] [] []
  | one {id : String} {rest : List String} {later : List Event} {panes : List String}
      {output : Output} (success : output.success) (others : Listed socket rest later panes) :
      Listed socket (id :: rest)
        (later ++ [.ran (command socket ["list-panes", "-t", id, "-F", "#{pane_id}"])
          (.ok output)])
        (panesOfListing output.stdout ++ panes)

/-- The panes of the windows of a name were asked for, and all there is was listed. -/
inductive Multiplexer.Listed (m : Multiplexer) (name : String) : List Event → List String → Prop
  | tmux {output : Output} {later : List Event} {panes : List String} (kind : m.kind = .tmux)
      (success : output.success)
      (each : Mux.Tmux.Listed m.socket
        (((Mux.Tmux.windowsOfListing output.stdout).filter (·.2 = name)).map (·.1)) later panes) :
      Listed m name (later ++ [.ran (Mux.Tmux.listCommand m.socket) (.ok output)]) panes
  | wezterm {output : Output} {entries : List Mux.PaneEntry} (kind : m.kind = .wezterm)
      (success : output.success)
      (parsed : Mux.PaneEntry.listOfText? output.stdout = some entries) :
      Listed m name [.ran (Mux.Wezterm.command ["list", "--format", "json"]) (.ok output)]
        ((entries.filter (·.title = name)).map (toString ·.pane))

theorem Mux.Tmux.panesOf_listed (socket : Option String) (ids : List String) :
    Emits (panesOf socket ids : Result ω _).run fun events result =>
      ∀ panes, result = .ok panes → Listed socket ids events panes := by
  induction ids with
  | nil =>
    apply emits_ok
    intro panes same
    cases same
    exact .none
  | cons id rest ih =>
    unfold panesOf
    refine (run_emits _ _).andThen ?_ fun _ _ _ _ same => by cases same
    intro output old given
    obtain ⟨reply, rfl, told⟩ := given
    obtain ⟨rfl, success⟩ := told output rfl
    refine ih.andThen ?_ fun _ _ _ _ same => by cases same
    intro panes new listed
    apply emits_ok
    intro all same
    cases same
    exact .one success (listed panes rfl)

theorem Mux.Tmux.listPanes_listed {m : Multiplexer} (kind : m.kind = .tmux) (name : String) :
    Emits (listPanes m.socket name : Result ω _).run fun events result =>
      ∀ panes, result = .ok panes → panes ≠ [] → m.Listed name events panes := by
  unfold listPanes
  refine (windowIds_lists name).andThen ?_ fun _ _ _ => nofun
  intro ids old known
  apply (panesOf_listed m.socket ids).mono
  intro new result listed panes same filled
  have listed := listed panes same
  have some : ids ≠ [] := by
    rintro rfl
    cases listed
    exact filled rfl
  obtain ⟨output, success, rfl, rfl⟩ := known ids rfl some
  exact .tmux kind success listed

theorem Mux.Wezterm.listPanes_listed {m : Multiplexer} (kind : m.kind = .wezterm) (name : String) :
    Emits (listPanes name : Result ω _).run fun events result =>
      ∀ panes, result = .ok panes → m.Listed name events panes := by
  refine (listPanes_reads name).emits.mono fun events result given panes same => ?_
  obtain ⟨reply, rfl, told⟩ := given
  obtain ⟨entries, read, rfl⟩ := exists_of_map_eq_ok (told.symm.trans same)
  obtain ⟨output, rfl, success, parsed⟩ := panesOf_eq_ok read
  exact .wezterm kind success parsed

/-- Where there are any panes, they were listed. -/
theorem Multiplexer.listPanes_listed (m : Multiplexer) (name : String) :
    Emits (m.listPanes name : Mux.Result ω _).run fun events result =>
      ∀ panes, result = .ok panes → panes ≠ [] → m.Listed name events panes := by
  unfold listPanes
  cases kind : m.kind with
  | tmux => exact Mux.Tmux.listPanes_listed kind name
  | wezterm =>
    exact (Mux.Wezterm.listPanes_listed kind name).mono fun _ _ listed panes same _ =>
      listed panes same

theorem Multiplexer.listPanes_idle (m : Multiplexer) (name : String) :
    Within Idle (m.listPanes name : Mux.Result ω _).run := by
  unfold listPanes
  cases m.kind with
  | tmux =>
    exact Mux.Tmux.listPanes_within _ (idle_tmux _ _ (by decide))
      fun _ => idle_tmux _ _ (by decide)
  | wezterm => exact Mux.Wezterm.listPanes_within _ (idle_wezterm _ (by decide))

end Worktop

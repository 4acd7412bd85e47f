import Worktop.Proofs.Commands

/-! # What the parts of an addition do

After the worktree and the window are made, an addition runs only hooks and commands for the
multiplexer that take nothing away (`Worktop.Lifecycle.Add.Routine`). All that it notes as made is
the branch's own (`Worktop.Lifecycle.Add.OwnWork`), so that undoing it cannot touch anything else.
-/

namespace Worktop

open Act

variable {ω : Type} {allowed : Command → Prop}

theorem Hook.runFrom_within {directory : String} {env : Environment}
    (hooks : ∀ hook, allowed (command hook directory env)) (index : Nat) (list : List String) :
    Within allowed (runFrom directory env index list : ExceptT Error (Act ω) (List Step)).run := by
  induction list generalizing index with
  | nil => exact within_ok _
  | cons hook rest ih =>
    unfold runFrom
    apply (Within.exec (hooks hook)).lift.andThen
    intro reply
    cases reply with
    | error e => exact within_error _
    | ok output =>
      dsimp only
      split
      · exact (ih (index + 1)).andThen fun steps => within_ok _
      · exact within_error _

/-- How many panes a configuration splits off: the first one comes with the window. -/
def Config.splitCount (config : Config) : Nat :=
  config.effectivePanes.tail.countP (·.split.isSome)

namespace Lifecycle.Add

open Adding (within_attempt within_get within_lift within_modify within_pure)

variable {setup : Setup} {workspace : Workspace} {branch : String}

/-! ## The branch's own -/

/-- Something that is made for a branch, and so may be removed for it. -/
def Belongs (setup : Setup) (branch : String) : Resource → Prop
  | .branch name => name = branch
  | .worktree owner _ => owner = branch
  | .window name => name = (setup.workspace branch).windowName
  | .pane .. => True

/-- All that was made was made for the branch. -/
def OwnWork (setup : Setup) (branch : String) (progress : Progress) : Prop :=
  ∀ resource ∈ progress.created, Belongs setup branch resource

theorem OwnWork.made {progress : Progress} (own : OwnWork setup branch progress)
    (resource : Resource) (belongs : Belongs setup branch resource) :
    OwnWork setup branch { progress with created := progress.created ++ [resource] } := by
  intro other member
  rcases List.mem_append.mp member with earlier | last
  · exact own other earlier
  · exact List.mem_singleton.mp last ▸ belongs

/-! ## Before anything is made -/

theorem check_within {α ε : Type} {act : ExceptT ε (Act ω) α} (within : Act.Within allowed act.run)
    (blame : ε → Error) : Within allowed (check act blame).run := by
  unfold check
  apply within.lift.andThen
  intro result
  cases result with
  | ok a => exact within_ok a
  | error e => exact within_error _

/-- Before anything is made only the multiplexer and git are asked for what there is. -/
theorem validate_within {config : Config} (mild : ∀ c, setup.mux.Mild c → allowed c)
    (names : allowed (setup.repository.git ["check-ref-format", "--branch", workspace.branch]))
    (asks : allowed (setup.repository.git
      ["show-ref", "--quiet", "--verify", "refs/heads/" ++ workspace.branch])) :
    Within allowed (validate setup workspace config : ExceptT Error (Act ω) Unit).run := by
  have runs : Within allowed (setup.mux.isRunning : Mux.Result ω Bool).run :=
    Multiplexer.isRunning_mild.imp mild
  have opens : Within allowed
      (setup.mux.windowExists workspace.windowName : Mux.Result ω Bool).run :=
    (Multiplexer.windowExists_mild _).imp mild
  unfold validate
  dsimp only
  split
  · rw [throw_bind]
    exact within_error _
  split
  · rw [throw_bind]
    exact within_error _
  apply (check_within runs _).andThen
  intro running
  split
  · rw [throw_bind]
    exact within_error _
  apply (check_within (Repository.validateBranchName_within names) _).andThen
  intro _
  apply (check_within (Repository.branchExists_within asks) _).andThen
  intro found
  split
  · rw [throw_bind]
    exact within_error _
  apply (check_within opens _).andThen
  intro taken
  split
  · exact within_error _
  · exact within_ok _

/-! ## After the window is made -/

/-- A hook, or a command for the multiplexer that takes nothing away. -/
def Routine (m : Multiplexer) (c : Command) : Prop :=
  c.program = "/bin/sh" ∨ m.Mild c

theorem not_destructive_of_routine {m : Multiplexer} {c : Command} (routine : Routine m c) :
    ¬ c.Destructive := by
  rcases routine with shell | mild
  · simp [Command.Destructive, shell]
  · exact mild.2

theorem not_git_of_routine {m : Multiplexer} {c : Command} (routine : Routine m c) :
    c.program ≠ "git" := by
  rcases routine with shell | mild
  · simp [shell]
  · rw [mild.1]
    exact m.kind.name_ne_git

/-- The events of a part of an addition that is routine, and the progress it keeps. -/
abbrev RoutinePart {α : Type} (setup : Setup) (branch : String) (part : Adding ω α) : Prop :=
  part.Within (Routine setup.mux) (OwnWork setup branch)

/-- A property of the progress that more panes, hooks and warnings do not change. -/
structure Steady (kept : Progress → Prop) : Prop where
  pane : ∀ {p} window pane, kept p → kept { p with created := p.created ++ [.pane window pane] }
  hooks : ∀ {p} record, kept p → kept { p with hooks := some record }
  warning : ∀ {p} e, kept p → kept { p with warnings := p.warnings ++ [e] }

section Walk

variable {kept : Progress → Prop}

theorem runHooks_within {path : String}
    (keeps : ∀ {p : Progress} record, kept p → kept { p with hooks := some record })
    (hooks : ∀ hook, allowed (Hook.command hook path workspace.env)) (config : Config) :
    (runHooks workspace config path : Adding ω Unit).Within allowed kept := by
  have runs : Within allowed (Hook.runAll config.postCreate path workspace.env :
      ExceptT Hook.Error (Act ω) _).run :=
    Hook.runFrom_within hooks _ _
  unfold runHooks
  apply (within_lift Within.now).bind
  intro start
  apply (within_attempt runs _).bind
  intro steps
  apply (within_lift Within.now).bind
  intro finish
  exact within_modify fun _ => keeps _

theorem splitPanes_within (steady : Steady kept) (mild : ∀ c, setup.mux.Mild c → allowed c)
    (window path : String) (specs : List PaneSpec) (current : String) :
    (splitPanes setup workspace window path current specs :
      Adding ω (List (String × String))).Within allowed kept := by
  induction specs generalizing current with
  | nil => exact within_pure _
  | cons spec specs ih =>
    unfold splitPanes
    have splits : ∀ direction, Within allowed
        (setup.mux.splitPane current direction path workspace.env : Mux.Result ω String).run :=
      fun direction => (Multiplexer.splitPane_mild _ _ _ _).imp mild
    cases spec.split with
    | none => exact (within_pure current).bind fun pane => (ih pane).bind fun _ => within_pure _
    | some direction =>
      apply (within_attempt (splits direction) _).bind
      intro pane
      apply Adding.Within.bind (within_modify fun _ before => steady.pane window pane before)
      intro _
      exact (within_pure pane).bind fun pane => (ih pane).bind fun _ => within_pure _

theorem setUpPanes_within (steady : Steady kept) (mild : ∀ c, setup.mux.Mild c → allowed c)
    (window : Mux.Window) (path : String) (specs : List PaneSpec) :
    (setUpPanes setup workspace window path specs :
      Adding ω (List (String × String))).Within allowed kept := by
  cases specs with
  | nil => exact within_pure _
  | cons first rest =>
    exact (splitPanes_within steady mild window.name path rest window.pane).bind
      fun _ => within_pure _

theorem awaitPanes_within {window : String}
    (lists : Within allowed (setup.mux.listPanes window : Mux.Result ω _).run) :
    (awaitPanes setup window : Adding ω Unit).Within allowed kept := by
  unfold awaitPanes
  apply within_get.bind
  intro progress
  refine within_attempt (within_poll _ _ ?_) _
  apply Act.Within.bind lists
  intro shown
  cases shown with
  | ok panes => exact Act.Within.pure _
  | error e => exact Act.Within.pure _

theorem deliver_within (steady : Steady kept) (mild : ∀ c, setup.mux.Mild c → allowed c)
    (deliveries : List (String × String)) :
    (deliver setup workspace deliveries : Adding ω Unit).Within allowed kept := by
  induction deliveries with
  | nil => exact within_pure _
  | cons delivery rest ih =>
    obtain ⟨pane, command⟩ := delivery
    unfold deliver
    apply (within_lift ((Multiplexer.sendText_mild _ _).imp mild)).bind
    intro sent
    cases sent with
    | ok _ => exact ih
    | error e => exact Adding.Within.bind (within_modify fun _ => steady.warning _) fun _ => ih

end Walk

/-- All that is done once the window is there. -/
def furnish (setup : Setup) (workspace : Workspace) (config : Config) (path : String)
    (window : Mux.Window) : Adding ω Unit := do
  runHooks workspace config path
  let deliveries ← setUpPanes setup workspace window path config.effectivePanes
  awaitPanes setup window.name
  if !deliveries.isEmpty then Adding.lift (Act.pause (config.settleDelay * 1000))
  deliver setup workspace deliveries

/-- All that is done once the worktree is there. -/
def equip (setup : Setup) (workspace : Workspace) (config : Config) (path : String) :
    Adding ω Unit := do
  let window ← createWindow setup workspace path
  furnish setup workspace config path window

theorem provision_eq (setup : Setup) (workspace : Workspace) (config : Config) :
    (provision setup workspace config : Adding ω Unit) = (do
      let path ← createWorktree setup workspace.branch
      equip setup workspace config path) := rfl

/-- Once the window is there nothing but hooks and what is mild is run. -/
theorem furnish_within {kept : Progress → Prop} {path : String} (steady : Steady kept)
    (hooks : ∀ hook, allowed (Hook.command hook path workspace.env))
    (mild : ∀ c, setup.mux.Mild c → allowed c) (config : Config) (window : Mux.Window) :
    (furnish setup workspace config path window : Adding ω Unit).Within allowed kept := by
  unfold furnish
  apply (runHooks_within steady.hooks hooks config).bind
  intro _
  apply (setUpPanes_within steady mild window path config.effectivePanes).bind
  intro deliveries
  apply (awaitPanes_within ((Multiplexer.listPanes_mild _).imp mild)).bind
  intro _
  dsimp only
  split
  · exact (within_lift (Act.Within.pause _)).bind fun _ => deliver_within steady mild deliveries
  · exact deliver_within steady mild deliveries

theorem steady_ownWork : Steady (OwnWork setup branch) where
  pane window pane own := own.made (.pane window pane) trivial
  hooks _ own := own
  warning _ own := own

theorem furnish_routine (config : Config) (path : String) (window : Mux.Window) :
    RoutinePart setup branch (furnish setup workspace config path window : Adding ω Unit) :=
  furnish_within steady_ownWork (fun _ => .inl rfl) (fun _ => .inr) config window

end Lifecycle.Add

end Worktop

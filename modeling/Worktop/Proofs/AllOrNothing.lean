import Worktop.Proofs.Addition
import Worktop.Proofs.Rollback

/-! # An addition makes all of a workspace or nothing

Each step of an addition leads from one stage to the next or fails at a stage it can be rolled back
from (`Worktop.Lifecycle.Add.provision_leads`), however git, tmux and the hooks fail. So an addition
ends with the whole workspace, or with the world as it was
(`Worktop.Lifecycle.add_all_or_nothing`).
-/

namespace Worktop

open Act World

namespace Lifecycle.Add

variable {course : Nat → Turn} {w w' : World} {fs fs' : FileSystem} {setup : Setup}
  {branch : String}

/-! ## Before anything is made -/

theorem check_tells {α ε : Type} {act : ExceptT ε (Act Scene) α} {blame : ε → Error} {a : α}
    (tells : Tells act.run course w fs (.ok a)) :
    Tells (check act blame).run course w fs (.ok a) := by
  unfold check
  refine tells.lift_bind ?_
  exact tells_ok a

theorem check_leads {α ε : Type} {act : ExceptT ε (Act Scene) α} {blame : ε → Error}
    {first : Except ε α → World → FileSystem → Prop}
    (leads : Leads act.run course w fs first) :
    Leads (check act blame).run course w fs fun result w' fs' =>
      (∃ a, result = .ok a ∧ first (.ok a) w' fs') ∨
        ∃ e, result = .error (blame e) ∧ first (.error e) w' fs' := by
  unfold check
  apply leads.lift_bind
  intro result w' fs' given
  cases result with
  | ok a => exact leads_ok (.inl ⟨a, rfl, given⟩)
  | error e => exact leads_error (.inr ⟨e, rfl, given⟩)

/-- What is validated is in nobody's way. -/
theorem validate_leads (tmux : setup.mux.kind = .tmux) (sound : w.Sound) (complete : w.Complete)
    (prefixLine : '\n' ∉ setup.windowPrefix.toList)
    (baseLine : '\n' ∉ setup.repository.base.toList) (config : Config) :
    Leads (validate setup (setup.workspace branch) config : ExceptT Error (Act Scene) Unit).run
      course w fs
      fun result w' fs' => w' = w ∧ fs' = fs ∧ (result = .ok () → Vacant setup branch w) := by
  have refused : ∀ e, Leads (throw e : ExceptT Error (Act Scene) Unit).run course w fs
      fun result w' fs' => w' = w ∧ fs' = fs ∧ (result = .ok () → Vacant setup branch w) :=
    fun e => leads_error ⟨rfl, rfl, fun same => nomatch same⟩
  unfold validate
  dsimp only
  split
  · rw [throw_bind]
    exact refused _
  split
  · rw [throw_bind]
    exact refused _
  refine (check_tells (Multiplexer.isRunning_tells tmux)).andThen ?_
  split
  · rw [throw_bind]
    exact refused _
  apply (check_leads (setup.repository.validateBranchName_leads branch)).andThen
  · intro _ w' fs' named
    have taken : w' = w ∧ fs' = fs ∧ w.takes branch = true := by
      rcases named with ⟨_, _, world, files, takes⟩ | ⟨_, same, _⟩
      · exact ⟨world, files, takes rfl⟩
      · cases same
    obtain ⟨rfl, rfl, takes⟩ := taken
    refine (check_tells (setup.repository.branchExists_tells branch)).andThen ?_
    by_cases present : branch ∈ w'.branches
    · rw [if_pos (decide_eq_true present), throw_bind]
      exact refused _
    rw [if_neg (by simpa using present)]
    refine (check_tells (Multiplexer.windowExists_tells tmux sound _)).andThen ?_
    by_cases opened : (setup.workspace branch).windowName ∈ w'.windows.map (·.name)
    · rw [if_pos (decide_eq_true opened)]
      exact refused _
    · rw [if_neg (by simpa using opened)]
      exact leads_ok ⟨rfl, rfl, fun _ => {
        tmux, sound, complete, absent := present, closed := opened
        branchLine := sound.takes branch takes
        pathLine := Workspace.singleLine_worktreePathOf baseLine branch
        nameLine := Workspace.oneLine_windowNameOf prefixLine branch }⟩
  · intro e w' fs' given
    rcases given with ⟨_, same, _⟩ | ⟨_, _, world, files, _⟩
    · cases same
    · exact ⟨world, files, fun same => nomatch same⟩

/-! ## The branch, its worktree and the window -/

/-- The branch is made with its worktree, or what is left of them is noted. -/
theorem createWorktree_leads (vacant : Vacant setup branch w) :
    (createWorktree setup branch).Leads course {} w fs fun result progress w' fs' =>
      match result with
      | .ok path => path = setup.repository.worktreePath branch ∧
        progress.created = noted setup branch ∧
        w' = w.withWorktree branch (setup.repository.worktreePath branch) ∧
        Planted setup course branch w fs fs'
      | .error _ => Built setup course branch w fs progress.created w' fs' := by
  unfold createWorktree
  apply Adding.Leads.lift_bind (setup.repository.create_leads vacant.sound vacant.absent)
  intro result w' fs' given
  cases result with
  | ok path =>
    obtain ⟨rfl, rfl, apart, place, plot, rfl⟩ := given
    refine Adding.leads_made_bind (Adding.leads_made_bind (Adding.leads_pure ?_))
    exact ⟨rfl, rfl, rfl, apart, place, plot, .refl _ _⟩
  | error e =>
    obtain ⟨early, left⟩ := given
    apply Adding.Leads.lift_bind (setup.repository.branchExists_tells branch)
    intro found world files told
    obtain ⟨rfl, rfl, rfl⟩ := told
    rcases left with rfl | ⟨rfl, other⟩
    · rw [decide_eq_false vacant.absent]
      exact Adding.leads_throw (.nothing early)
    · have present : branch ∈ (w.withBranch branch).branches :=
        List.mem_append_right _ List.mem_cons_self
      rw [decide_eq_true present]
      cases e with
      | branchExists name => exact absurd rfl (other name)
      | _ => exact Adding.leads_made_bind (Adding.leads_throw (.branch early))

/-- How far an addition is whose window is there. -/
def Furnishing (setup : Setup) (course : Nat → Turn) (branch : String) (w : World) (fs : FileSystem)
    (panes : List String) (created : List Resource) (w' : World) (fs' : FileSystem) : Prop :=
  created = notedPanes setup branch panes ∧ Opened setup branch w panes w' ∧
    Planted setup course branch w fs fs'

theorem Furnishing.built {panes : List String} {created : List Resource}
    (furnishing : Furnishing setup course branch w fs panes created w' fs') :
    Built setup course branch w fs created w' fs' := by
  obtain ⟨rfl, opened, planted⟩ := furnishing
  exact .window opened planted

/-- The window is made with its first pane, or nothing comes of it. -/
theorem createWindow_leads (vacant : Vacant setup branch w) {progress : Progress}
    (created : progress.created = noted setup branch)
    (planted : Planted setup course branch w fs fs') :
    (createWindow setup (setup.workspace branch) (setup.repository.worktreePath branch)).Leads
      course progress (w.withWorktree branch (setup.repository.worktreePath branch)) fs'
      fun result progress w' fs' =>
        match result with
        | .ok window => window.name = (setup.workspace branch).windowName ∧
          Furnishing setup course branch w fs [window.pane] progress.created w' fs'
        | .error _ => Built setup course branch w fs progress.created w' fs' := by
  have sound := vacant.sound.withWorktree vacant.pathLine vacant.branchLine planted.1
  unfold createWindow
  apply Adding.Leads.attempt_bind
    (Multiplexer.createWindow_leads vacant.tmux sound vacant.closed _ _)
  · intro window w' files given
    obtain ⟨rfl, named, freshWindow, freshPane, rfl⟩ := given
    have unused : ∀ pane ∈ [window.pane], ∀ other ∈ w.windows, pane ∉ other.panes := by
      intro pane member other present
      rw [List.mem_singleton.mp member]
      exact not_mem_of_freshPane freshPane other present
    refine Adding.leads_made_bind (Adding.leads_made_bind (Adding.leads_pure ?_))
    refine ⟨named, ?_, ⟨window.id, freshWindow, unused, List.pairwise_singleton _ _, rfl⟩, planted⟩
    simp only [created, named, notedPanes, List.append_assoc]
    rfl
  · intro e w' files given
    obtain ⟨rfl, rfl⟩ := given
    dsimp only
    rw [created]
    exact .worktree planted

/-! ## The hooks and the panes -/

theorem Opened.registrations {panes : List String} (opened : Opened setup branch w panes w') :
    w'.registrations =
      (w.withWorktree branch (setup.repository.worktreePath branch)).registrations := by
  obtain ⟨id, -, -, -, rfl⟩ := opened
  rfl

theorem Opened.sound {panes : List String} (vacant : Vacant setup branch w)
    (planted : Planted setup course branch w fs fs') (opened : Opened setup branch w panes w') :
    w'.Sound := by
  obtain ⟨id, fresh, -, -, rfl⟩ := opened
  have sound := vacant.sound.withWorktree vacant.pathLine vacant.branchLine planted.1
  exact sound.withWindow vacant.nameLine fresh

/-- A pane that is split off belongs to the window as well. -/
theorem Opened.withPane {panes : List String} {current new : String}
    (opened : Opened setup branch w panes w') (inside : current ∈ panes)
    (fresh : w'.freshPane new = true) :
    Opened setup branch w (panes ++ [new]) (w'.withPane current new) := by
  obtain ⟨id, freshWindow, apart, distinct, rfl⟩ := opened
  have unused : ∀ window ∈ w.windows ++
      [{ id, name := (setup.workspace branch).windowName, panes }], new ∉ window.panes :=
    not_mem_of_freshPane fresh
  have others : w.windows.map (fun window =>
      if current ∈ window.panes then { window with panes := window.panes ++ [new] } else window) =
        w.windows := by
    refine (List.map_congr_left fun window member => ?_).trans (List.map_id _)
    exact if_neg (apart current inside window member)
  refine ⟨id, freshWindow, ?_, ?_, ?_⟩
  · intro pane member window present
    rcases List.mem_append.mp member with old | added
    · exact apart pane old window present
    · rw [List.mem_singleton.mp added]
      exact unused window (List.mem_append_left _ present)
  · have outside : new ∉ panes := unused _ (List.mem_append_right _ List.mem_cons_self)
    rw [List.nodup_append]
    refine ⟨distinct, List.pairwise_singleton _ _, fun pane old other added same => outside ?_⟩
    rw [← List.mem_singleton.mp added, ← same]
    exact old
  · have windows : (w.withWorktree branch (setup.repository.worktreePath branch)).windows =
        w.windows := rfl
    unfold World.withPane withWindow
    simp only [List.map_append, List.map_cons, List.map_nil, inside, ↓reduceIte]
    rw [windows, others]

/-- Hooks change nothing but files. -/
theorem runHooks_leads {panes : List String} {progress : Progress} (config : Config)
    (furnishing : Furnishing setup course branch w fs panes progress.created w' fs') :
    (runHooks (setup.workspace branch) config (setup.repository.worktreePath branch)).Leads course
      progress w' fs' fun _ progress w' fs' =>
        Furnishing setup course branch w fs panes progress.created w' fs' := by
  obtain ⟨created, opened, apart, place, plot, left⟩ := furnishing
  have later : ∀ files, LeftByHooks course w'.registrations fs' files →
      Planted setup course branch w fs files := by
    intro files hooked
    rw [opened.registrations] at hooked
    exact ⟨apart, place, plot, left.trans hooked⟩
  unfold runHooks
  apply Adding.Leads.lift_bind leads_now
  intro start world files same
  obtain ⟨rfl, rfl⟩ := same
  apply Adding.Leads.attempt_bind (Hook.runFrom_leads _ _ _ _)
  · intro steps world files given
    obtain ⟨rfl, hooked⟩ := given
    apply Adding.Leads.lift_bind leads_now
    intro finish world files same
    obtain ⟨rfl, rfl⟩ := same
    exact Adding.leads_modify ⟨created, opened, later _ hooked⟩
  · intro e world files given
    obtain ⟨rfl, hooked⟩ := given
    exact ⟨created, opened, later _ hooked⟩

theorem notedPanes_append (panes more : List String) :
    notedPanes setup branch (panes ++ more) =
      notedPanes setup branch panes ++ more.map (.pane (setup.workspace branch).windowName) := by
  simp [notedPanes]

theorem splitPanes_leads (tmux : setup.mux.kind = .tmux) (specs : List PaneSpec)
    {panes : List String} {current : String} {progress : Progress}
    (furnishing : Furnishing setup course branch w fs panes progress.created w' fs')
    (inside : current ∈ panes) :
    (splitPanes setup (setup.workspace branch) (setup.workspace branch).windowName
      (setup.repository.worktreePath branch) current specs).Leads course progress w' fs'
      fun result progress w' fs' => ∃ more,
        Furnishing setup course branch w fs (panes ++ more) progress.created w' fs' ∧
          ∀ deliveries, result = .ok deliveries → more.length = specs.countP (·.split.isSome) := by
  -- The window has all panes split off so far, and the next one is split off one of them.
  induction specs generalizing panes current progress w' fs' with
  | nil =>
    refine Adding.leads_pure ⟨[], ?_, fun _ _ => rfl⟩
    rwa [List.append_nil]
  | cons spec rest ih =>
    unfold splitPanes
    cases split : spec.split with
    | none =>
      refine Adding.leads_pure_bind (Adding.Leads.bind (ih furnishing inside)
        (fun deliveries p world files given => ?_) fun e p world files given => ?_)
      · obtain ⟨more, furnished, counted⟩ := given
        refine Adding.leads_pure ⟨more, furnished, fun _ _ => ?_⟩
        rw [List.countP_cons_of_neg (by simp [split])]
        exact counted deliveries rfl
      · obtain ⟨more, furnished, -⟩ := given
        exact ⟨more, furnished, fun _ same => by cases same⟩
    | some direction =>
      obtain ⟨created, opened, planted⟩ := furnishing
      apply Adding.Leads.attempt_bind (Multiplexer.splitPane_leads tmux current direction _ _)
      · intro new world files given
        obtain ⟨rfl, fresh, rfl⟩ := given
        have furnished : Furnishing setup course branch w fs (panes ++ [new])
            (progress.created ++ [.pane (setup.workspace branch).windowName new])
            (w'.withPane current new) files := by
          refine ⟨?_, opened.withPane inside fresh, planted⟩
          rw [notedPanes_append, created]
          rfl
        have inside' : new ∈ panes ++ [new] := List.mem_append_right _ List.mem_cons_self
        refine Adding.leads_made_bind (Adding.leads_pure_bind (Adding.Leads.bind
          (ih furnished inside') (fun deliveries p world files given => ?_)
          fun e p world files given => ?_))
        · obtain ⟨more, furnished, counted⟩ := given
          rw [List.append_assoc] at furnished
          refine Adding.leads_pure ⟨[new] ++ more, furnished, fun _ _ => ?_⟩
          rw [List.countP_cons_of_pos (by simp [split]), ← counted deliveries rfl]
          rfl
        · obtain ⟨more, furnished, -⟩ := given
          rw [List.append_assoc] at furnished
          exact ⟨[new] ++ more, furnished, fun _ same => by cases same⟩
      · intro e world files given
        obtain ⟨rfl, rfl⟩ := given
        refine ⟨[], ?_, fun _ same => by cases same⟩
        rw [List.append_nil]
        exact ⟨created, opened, planted⟩

theorem setUpPanes_leads (tmux : setup.mux.kind = .tmux) {window : Mux.Window}
    (named : window.name = (setup.workspace branch).windowName) (specs : List PaneSpec)
    {progress : Progress}
    (furnishing : Furnishing setup course branch w fs [window.pane] progress.created w' fs') :
    (setUpPanes setup (setup.workspace branch) window (setup.repository.worktreePath branch)
      specs).Leads course progress w' fs' fun result progress w' fs' => ∃ more,
        Furnishing setup course branch w fs (window.pane :: more) progress.created w' fs' ∧
          ∀ deliveries, result = .ok deliveries →
            more.length = specs.tail.countP (·.split.isSome) := by
  cases specs with
  | nil => exact Adding.leads_pure ⟨[], furnishing, fun _ _ => rfl⟩
  | cons first rest =>
    unfold setUpPanes
    rw [named]
    apply Adding.Leads.bind (splitPanes_leads tmux rest furnishing List.mem_cons_self)
    · intro deliveries p world files given
      obtain ⟨more, furnished, counted⟩ := given
      exact Adding.leads_pure ⟨more, furnished, fun _ _ => counted deliveries rfl⟩
    · intro e p world files given
      obtain ⟨more, furnished, -⟩ := given
      exact ⟨more, furnished, fun _ same => by cases same⟩

theorem awaitPanes_leads (vacant : Vacant setup branch w) {panes : List String}
    {progress : Progress} (window : String)
    (furnishing : Furnishing setup course branch w fs panes progress.created w' fs') :
    (awaitPanes setup window).Leads course progress w' fs' fun _ progress w' fs' =>
      Furnishing setup course branch w fs panes progress.created w' fs' := by
  have sound : w'.Sound := furnishing.2.1.sound vacant furnishing.2.2
  unfold awaitPanes
  refine Adding.leads_get_bind (Adding.Leads.attempt (Leads.poll ?_) ?_ ?_)
  · apply Leads.bind (Multiplexer.listPanes_leads vacant.tmux sound window)
    intro shown world files same
    obtain ⟨rfl, rfl⟩ := same
    cases shown with
    | ok panes => exact leads_pure ⟨rfl, rfl⟩
    | error e => exact leads_pure ⟨rfl, rfl⟩
  · intro _ world files same
    obtain ⟨rfl, rfl⟩ := same
    exact furnishing
  · intro e world files same
    obtain ⟨rfl, rfl⟩ := same
    exact furnishing

/-- What cannot be delivered is warned of, and nothing changes. -/
theorem deliver_leads (tmux : setup.mux.kind = .tmux) (workspace : Workspace) {panes : List String}
    (deliveries : List (String × String)) {progress : Progress}
    (furnishing : Furnishing setup course branch w fs panes progress.created w' fs') :
    (deliver setup workspace deliveries).Leads course progress w' fs' fun result progress w' fs' =>
      result = .ok () ∧ Furnishing setup course branch w fs panes progress.created w' fs' := by
  induction deliveries generalizing progress with
  | nil => exact Adding.leads_pure ⟨rfl, furnishing⟩
  | cons delivery rest ih =>
    obtain ⟨pane, command⟩ := delivery
    unfold deliver
    apply Adding.Leads.lift_bind (Multiplexer.sendText_leads tmux _ _)
    intro sent world files same
    obtain ⟨rfl, rfl⟩ := same
    cases sent with
    | ok _ => exact Adding.leads_pure_bind (ih furnishing)
    | error e => exact Adding.leads_modify_bind (ih furnishing)

/-! ## All of it -/

/-- Where an addition has made everything, the window has the panes of the layout. -/
theorem furnish_leads (vacant : Vacant setup branch w) (config : Config) {window : Mux.Window}
    (named : window.name = (setup.workspace branch).windowName) {progress : Progress}
    (furnishing : Furnishing setup course branch w fs [window.pane] progress.created w' fs') :
    (furnish setup (setup.workspace branch) config (setup.repository.worktreePath branch)
      window).Leads course progress w' fs' fun result progress w' fs' => ∃ panes,
        Furnishing setup course branch w fs panes progress.created w' fs' ∧
          (result = .ok () → panes.length = 1 + config.splitCount) := by
  unfold furnish
  refine Adding.Leads.bind (runHooks_leads config furnishing) (fun _ p world files furnishing => ?_)
    fun e p world files furnishing => ⟨_, furnishing, fun same => nomatch same⟩
  apply Adding.Leads.bind (setUpPanes_leads vacant.tmux named config.effectivePanes furnishing)
  · intro deliveries p world files given
    obtain ⟨more, furnishing, counted⟩ := given
    have count : (window.pane :: more).length = 1 + config.splitCount := by
      rw [List.length_cons, counted deliveries rfl, Config.splitCount, Nat.add_comm]
    refine Adding.Leads.bind (awaitPanes_leads vacant _ furnishing)
      (fun _ p world files furnishing => ?_)
      fun e p world files furnishing => ⟨_, furnishing, fun same => nomatch same⟩
    dsimp only
    split
    · apply Adding.Leads.lift_bind (tells_pause _)
      intro _ world files same
      obtain ⟨-, rfl, rfl⟩ := same
      exact (deliver_leads vacant.tmux _ deliveries furnishing).mono
        fun _ _ _ _ given => ⟨_, given.2, fun _ => count⟩
    · exact (deliver_leads vacant.tmux _ deliveries furnishing).mono
        fun _ _ _ _ given => ⟨_, given.2, fun _ => count⟩
  · intro e p world files given
    obtain ⟨more, furnishing, -⟩ := given
    exact ⟨_, furnishing, fun same => nomatch same⟩

/-- However an addition fails, what it has noted is what it has made. -/
theorem provision_leads (vacant : Vacant setup branch w) (config : Config) :
    (provision setup (setup.workspace branch) config).Leads course {} w fs
      fun result progress w' fs' =>
        match result with
        | .ok _ => ∃ panes, Furnishing setup course branch w fs panes progress.created w' fs' ∧
          panes.length = 1 + config.splitCount
        | .error _ => Built setup course branch w fs progress.created w' fs' := by
  rw [provision_eq]
  refine Adding.Leads.bind (createWorktree_leads vacant) (fun path p world files given => ?_)
    fun _ _ _ _ built => built
  obtain ⟨rfl, created, rfl, planted⟩ := given
  unfold equip
  refine Adding.Leads.bind (createWindow_leads vacant created planted)
    (fun window p world files given => ?_) fun _ _ _ _ built => built
  obtain ⟨named, furnishing⟩ := given
  apply (furnish_leads vacant config named furnishing).mono
  intro result p world files given
  obtain ⟨panes, furnished, counted⟩ := given
  cases result with
  | ok _ => exact ⟨panes, furnished, counted rfl⟩
  | error e => exact furnished.built

/-- The whole workspace of a branch is there, and nothing else is new. -/
structure Whole (setup : Setup) (course : Nat → Turn) (branch : String) (config : Config)
    (w : World) (fs : FileSystem) (outcome : Outcome AddState) (w' : World) (fs' : FileSystem) :
    Prop where
  ready : outcome.state = .ready
  succeeded : outcome.succeeded = true
  errors : outcome.errors = []
  removed : outcome.removed = []
  created : outcome.created = notedPanes setup branch outcome.panes
  panes : outcome.panes.length = 1 + config.splitCount
  absent : branch ∉ w.branches
  closed : (setup.workspace branch).windowName ∉ w.windows.map (·.name)
  opened : Opened setup branch w outcome.panes w'
  planted : Planted setup course branch w fs fs'
  stands : fs'.pathExists (setup.repository.worktreePath branch) = true

/-- Nothing of a workspace is left: the world is as it was, and so are the directories of worktrees
and all that hooks leave alone, but for a directory that may have been made for worktrees. -/
structure Undone (setup : Setup) (course : Nat → Turn) (branch : String) (w : World)
    (fs : FileSystem) (outcome : Outcome AddState) (w' : World) (fs' : FileSystem) : Prop where
  failed : outcome.state = .failed
  unsuccessful : outcome.succeeded = false
  error : ∃ e, outcome.errors = [e]
  removed : outcome.removed = undoOrder outcome.created
  world : w' = w
  files : Restored setup course branch w fs fs'

theorem panes_notedPanes (panes : List String) :
    (notedPanes setup branch panes).filterMap Resource.pane? = panes := by
  change (panes.map (Resource.pane (setup.workspace branch).windowName)).filterMap
    Resource.pane? = panes
  rw [List.filterMap_map]
  exact List.filterMap_some

theorem build_leads (vacant : Vacant setup branch w) (rooted : fs.Rooted) (config : Config) :
    Leads (build setup (setup.workspace branch) config) course w fs fun outcome w' fs' =>
      Whole setup course branch config w fs outcome w' fs' ∨
        Undone setup course branch w fs outcome w' fs' := by
  unfold build
  apply Leads.bind (provision_leads vacant config)
  intro result world files given
  obtain ⟨result, progress⟩ := result
  cases result with
  | ok _ =>
    obtain ⟨panes, ⟨created, opened, planted⟩, counted⟩ := given
    have shown : progress.created.filterMap Resource.pane? = panes := by
      rw [created, panes_notedPanes]
    refine leads_pure (.inl ⟨rfl, rfl, rfl, rfl, ?_, ?_, vacant.absent, vacant.closed, ?_, planted,
      planted.stands⟩)
    · exact created.trans (congrArg _ shown.symm)
    · exact (congrArg List.length shown).trans counted
    · change Opened setup branch w (progress.created.filterMap Resource.pane?) world
      rwa [shown]
  | error e =>
    apply Leads.bind (Built.rollBack vacant rooted given)
    intro result world files given
    obtain ⟨rfl, rfl, restored⟩ := given
    exact leads_pure (.inr ⟨rfl, rfl, ⟨e, rfl⟩, rfl, rfl, restored⟩)

/-- What was refused before anything was made has left everything alone. -/
theorem undone_of_refused {outcome : Outcome AddState} (failed : outcome.state = .failed)
    (unsuccessful : outcome.succeeded = false) (error : ∃ e, outcome.errors = [e])
    (removed : outcome.removed = []) (created : outcome.created = []) :
    Undone setup course branch w fs outcome w fs where
  failed := failed
  unsuccessful := unsuccessful
  error := error
  removed := by
    rw [removed, created]
    rfl
  world := rfl
  files := ⟨fs, .inl rfl, .refl _ _⟩

theorem addLocked_leads (tmux : setup.mux.kind = .tmux)
    (prefixLine : '\n' ∉ setup.windowPrefix.toList)
    (baseLine : '\n' ∉ setup.repository.base.toList) (sound : w.Sound) (complete : w.Complete)
    (rooted : fs.Rooted) (branch : String) (config : Config) :
    Leads (addLocked setup (setup.workspace branch) config) course w fs fun outcome w' fs' =>
      Whole setup course branch config w fs outcome w' fs' ∨
        Undone setup course branch w fs outcome w' fs' := by
  unfold addLocked
  apply Leads.bind (validate_leads tmux sound complete prefixLine baseLine config)
  intro result world files given
  obtain ⟨rfl, rfl, vacant⟩ := given
  cases result with
  | ok _ => exact build_leads (vacant rfl) rooted config
  | error e => exact leads_pure (.inr (undone_of_refused rfl rfl ⟨e, rfl⟩ rfl rfl))

end Lifecycle.Add

namespace Lifecycle

variable {setup : Setup} {s : Session Scene}

/-- **An addition makes all of a workspace or nothing.** However git fails to make the worktree, and
whichever windows, panes and hooks fail, an addition ends with the whole workspace, or with one
error and the world as it was before. -/
theorem add_all_or_nothing (course : Nat → Turn) (tmux : setup.mux.kind = .tmux)
    (prefixLine : '\n' ∉ setup.windowPrefix.toList)
    (baseLine : '\n' ∉ setup.repository.base.toList) (sound : s.outside.world.Sound)
    (complete : s.outside.world.Complete) (rooted : s.files.Rooted) (branch : String)
    (config : Config) :
    let fs := (s.locks.acquire s.files setup.lockTable branch).2.2
    let ended := (add setup branch config).perform (host course) s
    Add.Whole setup course branch config s.outside.world fs ended.1 ended.2.outside.world
        ended.2.files ∨
      Add.Undone setup course branch s.outside.world fs ended.1 ended.2.outside.world
        ended.2.files := by
  have rooted' := Locks.acquire_rooted s.locks rooted setup.lockTable branch
  cases taken : s.locks.acquire s.files setup.lockTable branch with
  | mk guard? after =>
    obtain ⟨locks, fs⟩ := after
    rw [taken] at rooted'
    cases guard? with
    | error e =>
      have refused : (add setup branch config).perform (host course) s = _ :=
        perform_bind (perform_acquire_error taken)
      intro fs ended
      unfold ended
      rw [refused]
      exact .inr (Add.undone_of_refused rfl rfl ⟨_, rfl⟩ rfl rfl)
    | ok guard =>
      have locked : Leads (Add.addLocked setup (setup.workspace branch) config) course
          s.outside.world fs _ :=
        Add.addLocked_leads tmux prefixLine baseLine sound complete rooted' branch config
      exact (Leads.locked _ locked taken).1

/-- Nobody has the branch `demo`, and tmux has a window of its own. -/
def untouched : Session Scene where
  outside :=
    { world :=
        { branches := ["main"]
          main := { path := "repo", head := some "1111111", branch := some "main" }
          windows := [{ id := "@1", name := "shell", panes := ["%1"] }] } }

/-- Worktrees go beside the repository, and windows to tmux. -/
def beside : Setup where
  repository := { root := "repo", base := "trees" }
  mux := { kind := .tmux }
  shell := { path := "/bin/sh" }

/-- Git makes the branch and is then killed, where it is asked for a worktree. -/
def interrupted (n : Nat) : Turn where
  refusal := if n = 5 then some (.ok { exitCode := none }) else none
  half := true

theorem interrupted_adds_nothing :
    ((add beside "demo" {}).perform (host interrupted) untouched).1.removed = [.branch "demo"] ∧
      ((add beside "demo" {}).perform (host interrupted) untouched).2.outside.world =
        untouched.outside.world := by
  have sound : untouched.outside.world.Sound :=
    ⟨by decide, by decide, by decide, by decide, by decide, by decide, by decide,
      fun _ taken => of_decide_eq_true taken⟩
  have removed : ((add beside "demo" {}).perform (host interrupted) untouched).1.removed =
      [.branch "demo"] := by
    decide +kernel
  have tmux : beside.mux.kind = .tmux := rfl
  have prefixLine : '\n' ∉ beside.windowPrefix.toList := by decide
  have baseLine : '\n' ∉ beside.repository.base.toList := by decide
  rcases add_all_or_nothing interrupted tmux prefixLine baseLine sound (by decide)
    FileSystem.rooted_empty "demo" {} with whole | undone
  · exact absurd (removed.symm.trans whole.removed) (by decide)
  · exact ⟨removed, undone.world⟩

end Lifecycle

end Worktop

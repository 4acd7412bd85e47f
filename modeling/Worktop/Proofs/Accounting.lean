import Worktop.Proofs.Attempts
import Worktop.Proofs.Perform
import Worktop.Rehearsal

/-! # What an addition tells of itself

An addition is ready without an error, or it failed at one step, whose error comes first
(`Worktop.Lifecycle.Add.Fails`). Whatever was made until then is attempted to be taken away, each
thing once and the latest first, and then the addition ends: its rollback is nothing but these
attempts (`Worktop.Lifecycle.Add.rollBack_eq_attemptAll`). Each attempt leaves either the thing
among what was removed or one more error, so nothing that was made can be lost from what an addition
tells (`Worktop.Lifecycle.add_accounts`).
-/

namespace Worktop.Lifecycle

open Act hiding gives_lift_bind

variable {ω : Type} {setup : Setup} {branch : String} {workspace : Workspace} {config : Config}
  {host : Host ω} {s s' : Session ω}

/-! ## What is made -/

/-- The kinds of what an addition makes. -/
inductive ResourceKind where
  | branch
  | worktree
  | window
  | pane
  deriving DecidableEq, Repr

/-- The kind of a resource. -/
def Resource.kind : Resource → ResourceKind
  | .branch _ => .branch
  | .worktree .. => .worktree
  | .window _ => .window
  | .pane .. => .pane

/-- The kinds of what is noted as made. -/
def Progress.kinds (progress : Progress) : List ResourceKind :=
  progress.created.map Resource.kind

namespace Add

open Adding (Gives gives_attempt gives_attempt_bind gives_get_bind gives_lift_bind gives_made_bind
  gives_pure gives_pure_bind gives_throw)
open Remove (Fate attempt attemptAll)

/-- The kinds of what an addition may have made, in order. -/
inductive Stocked : List ResourceKind → Prop
  | nothing : Stocked []
  | branch : Stocked [.branch]
  | worktree : Stocked [.branch, .worktree]
  | window (others : Nat) :
    Stocked (.branch :: .worktree :: .window :: .pane :: List.replicate others .pane)

/-! ## Single steps -/

/-- Where a step fails it blames its own phase. -/
def Blames {α : Type} (step : AddState) (result : Except Error α) : Prop :=
  ∀ e, result = .error e → e.phase = .add step

theorem blames_ok {α : Type} {step : AddState} {a : α} : Blames step (.ok a) :=
  fun _ failed => nomatch failed

theorem blames_error {α : Type} {step : AddState} {e : Error} (phase : e.phase = .add step) :
    Blames step (.error e : Except Error α) := by
  intro e' failed
  cases failed
  exact phase

/-- A step makes nothing but panes, and where it fails it blames its own phase. -/
structure WithinStep {α : Type} (step : AddState) (before : Progress) (result : Except Error α)
    (after : Progress) : Prop where
  panes : ∃ more, after.kinds = before.kinds ++ List.replicate more .pane
  blames : Blames step result

theorem withinStep_ok {α : Type} {step : AddState} {before after : Progress} {a : α}
    (same : after.created = before.created) : WithinStep step before (.ok a) after where
  panes := ⟨0, by simp [Progress.kinds, same]⟩
  blames := blames_ok

theorem withinStep_error {α : Type} {step : AddState} {before : Progress} {e : Error}
    (phase : e.phase = .add step) :
    WithinStep step before (.error e : Except Error α) before where
  panes := ⟨0, by simp⟩
  blames := blames_error phase

/-- What follows a part of a step that made some panes may make more. -/
theorem WithinStep.after {α : Type} {step : AddState} {before between after : Progress}
    {result : Except Error α} (within : WithinStep step between result after)
    (earlier : ∃ more, between.kinds = before.kinds ++ List.replicate more .pane) :
    WithinStep step before result after where
  panes := by
    obtain ⟨first, made⟩ := earlier
    obtain ⟨second, made'⟩ := within.panes
    exact ⟨first + second, by rw [made', made, List.append_assoc, List.replicate_append_replicate]⟩
  blames := within.blames

/-- What a part of a step gives may be made into something else. -/
theorem gives_within_map {α β : Type} {step : AddState} {part : Adding ω α} {before : Progress}
    (within : part.Gives before (WithinStep step before)) (f : α → β) :
    Gives (part >>= fun a => pure (f a)) before (WithinStep step before) := by
  refine Gives.bind within (fun a after holds => ?_) fun e after holds => ?_
  · exact gives_pure ⟨holds.panes, blames_ok⟩
  · exact ⟨holds.panes, blames_error (holds.blames e rfl)⟩

theorem check_blames {α ε : Type} {act : ExceptT ε (Act ω) α} {blame : ε → Error}
    (phase : ∀ e, (blame e).phase = .add .validating) :
    Act.Gives (check act blame).run (Blames .validating) := by
  unfold check
  apply Act.gives_lift_bind
  intro result
  cases result with
  | ok a => exact gives_ok blames_ok
  | error e => exact gives_error (blames_error (phase e))

theorem validate_blames (setup : Setup) (workspace : Workspace) (config : Config) :
    Act.Gives (validate setup workspace config : ExceptT Error (Act ω) Unit).run
      (Blames .validating) := by
  have passed : ∀ {α : Type} (e : Error), Blames .validating (.error e : Except Error α) →
      Blames .validating (.error e : Except Error Unit) :=
    fun e blames => blames_error (blames e rfl)
  unfold validate
  dsimp only
  split
  · rw [throw_bind]
    exact gives_error (blames_error rfl)
  split
  · rw [throw_bind]
    exact gives_error (blames_error rfl)
  refine (check_blames fun _ => rfl).andThen (fun running _ => ?_) passed
  split
  · rw [throw_bind]
    exact gives_error (blames_error rfl)
  refine (check_blames fun _ => rfl).andThen (fun _ _ => ?_) passed
  refine (check_blames fun _ => rfl).andThen (fun found _ => ?_) passed
  split
  · rw [throw_bind]
    exact gives_error (blames_error rfl)
  refine (check_blames fun _ => rfl).andThen (fun taken _ => ?_) passed
  split
  · exact gives_error (blames_error rfl)
  · exact gives_ok blames_ok

theorem createWorktree_gives (setup : Setup) (branch : String) :
    (createWorktree setup branch : Adding ω String).Gives {} fun result after =>
      match result with
      | .ok _ => after.kinds = [.branch, .worktree]
      | .error e => e.phase = .add .creatingWorktree ∧ Stocked after.kinds := by
  unfold createWorktree
  apply gives_lift_bind
  intro result
  cases result with
  | ok path => exact gives_made_bind (gives_made_bind (gives_pure rfl))
  | error e =>
    apply gives_lift_bind
    intro left
    dsimp only
    split
    · exact gives_throw ⟨rfl, .nothing⟩
    · exact gives_made_bind (gives_throw ⟨rfl, .branch⟩)
    · exact gives_throw ⟨rfl, .nothing⟩

theorem createWindow_gives (setup : Setup) (workspace : Workspace) (path : String)
    (progress : Progress) :
    (createWindow setup workspace path : Adding ω Mux.Window).Gives progress fun result after =>
      match result with
      | .ok _ => after.kinds = progress.kinds ++ [.window, .pane]
      | .error e => e.phase = .add .creatingWindow ∧ after.kinds = progress.kinds := by
  unfold createWindow
  refine gives_attempt_bind (fun window => ?_) fun e => ⟨rfl, rfl⟩
  apply gives_made_bind
  apply gives_made_bind
  apply gives_pure
  simp [Progress.kinds, Resource.kind]

theorem runHooks_gives (workspace : Workspace) (config : Config) (path : String)
    (progress : Progress) :
    (runHooks workspace config path : Adding ω Unit).Gives progress
      (WithinStep .runningHooks progress) := by
  unfold runHooks
  apply gives_lift_bind
  intro start
  refine gives_attempt_bind (fun steps => ?_) fun e => withinStep_error rfl
  apply gives_lift_bind
  intro finish
  exact fun _ _ => withinStep_ok rfl

theorem splitPanes_gives (setup : Setup) (workspace : Workspace) (window path : String)
    (specs : List PaneSpec) (current : String) (progress : Progress) :
    (splitPanes setup workspace window path current specs :
      Adding ω (List (String × String))).Gives progress (WithinStep .settingUpPanes progress) := by
  induction specs generalizing current progress with
  | nil => exact gives_pure (withinStep_ok rfl)
  | cons spec specs ih =>
    have rest : ∀ pane progress, Gives (do
        let deliveries ← splitPanes setup workspace window path pane specs
        pure ((spec.trimmedCommand?.map (pane, ·)).toList ++ deliveries) : Adding ω _) progress
          (WithinStep .settingUpPanes progress) :=
      fun pane progress => gives_within_map (ih pane progress) _
    unfold splitPanes
    cases spec.split with
    | none => exact gives_pure_bind (rest current progress)
    | some direction =>
      refine gives_attempt_bind (fun pane => ?_) fun e => withinStep_error rfl
      apply gives_made_bind
      apply gives_pure_bind
      intro host s
      refine (rest pane _ host s).after ⟨1, ?_⟩
      simp [Progress.kinds, Resource.kind]

theorem setUpPanes_gives (setup : Setup) (workspace : Workspace) (window : Mux.Window)
    (path : String) (specs : List PaneSpec) (progress : Progress) :
    (setUpPanes setup workspace window path specs : Adding ω (List (String × String))).Gives
      progress (WithinStep .settingUpPanes progress) := by
  cases specs with
  | nil => exact gives_pure (withinStep_ok rfl)
  | cons first rest =>
    exact gives_within_map
      (splitPanes_gives setup workspace window.name path rest window.pane progress) _

theorem awaitPanes_gives (setup : Setup) (window : String) (progress : Progress) :
    (awaitPanes setup window : Adding ω Unit).Gives progress
      (WithinStep .settingUpPanes progress) := by
  unfold awaitPanes
  apply gives_get_bind
  exact gives_attempt (fun _ => withinStep_ok rfl) fun e => withinStep_error rfl

/-- A command that does not get to its pane is no failure. -/
theorem deliver_gives (setup : Setup) (workspace : Workspace)
    (deliveries : List (String × String)) (progress : Progress) :
    (deliver setup workspace deliveries : Adding ω Unit).Gives progress fun result after =>
      result = .ok () ∧ after.kinds = progress.kinds := by
  induction deliveries generalizing progress with
  | nil => exact gives_pure ⟨rfl, rfl⟩
  | cons delivery rest ih =>
    obtain ⟨pane, command⟩ := delivery
    unfold deliver
    apply gives_lift_bind
    intro sent
    cases sent with
    | ok _ => exact ih progress
    | error e =>
      intro host s
      exact ih _ host s

/-- A window and some panes are noted beside the branch and its worktree. -/
def Windowed (progress : Progress) : Prop :=
  ∃ others,
    progress.kinds = .branch :: .worktree :: .window :: .pane :: List.replicate others .pane

theorem Windowed.stocked {progress : Progress} (windowed : Windowed progress) :
    Stocked progress.kinds := by
  obtain ⟨others, same⟩ := windowed
  exact same ▸ .window others

theorem Windowed.after {before after : Progress} (windowed : Windowed before)
    (panes : ∃ more, after.kinds = before.kinds ++ List.replicate more .pane) :
    Windowed after := by
  obtain ⟨others, same⟩ := windowed
  obtain ⟨more, made⟩ := panes
  exact ⟨others + more, by simp [made, same]⟩

theorem provision_stocked (setup : Setup) (workspace : Workspace) (config : Config) :
    (provision setup workspace config : Adding ω Unit).Gives {} fun _ after =>
      Stocked after.kinds := by
  unfold provision
  refine (createWorktree_gives setup workspace.branch).bind (fun path p1 made => ?_)
    fun e p failed => ?_
  · refine (createWindow_gives setup workspace path p1).bind (fun window p2 opened => ?_)
      fun e p failed => ?_
    · have windowed : Windowed p2 := ⟨0, by rw [opened, made]; rfl⟩
      refine (runHooks_gives workspace config path p2).bind (fun _ p3 hooks => ?_)
        fun e p hooks => (windowed.after hooks.panes).stocked
      have windowed := windowed.after hooks.panes
      refine (setUpPanes_gives setup workspace window path _ p3).bind
        (fun deliveries p4 panes => ?_)
        fun e p panes => (windowed.after panes.panes).stocked
      have windowed := windowed.after panes.panes
      refine (awaitPanes_gives setup window.name p4).bind (fun _ p5 shown => ?_)
        fun e p shown => (windowed.after shown.panes).stocked
      have windowed := windowed.after shown.panes
      have delivers : (deliver setup workspace deliveries : Adding ω Unit).Gives p5
          fun _ after => Stocked after.kinds := by
        intro host s
        have same := (deliver_gives setup workspace deliveries p5 host s).2
        change Stocked (Progress.kinds _)
        rw [same]
        exact windowed.stocked
      dsimp only
      split
      · exact Adding.gives_lift_bind fun _ => delivers
      · exact delivers
    · rw [failed.2, made]
      exact .worktree
  · exact failed.2

/-! ## The step that fails -/

/-- From some progress and state on, a part of an addition ends with a result in others. -/
abbrev EndsWith {α : Type} (part : Adding ω α) (host : Host ω) (progress : Progress)
    (s : Session ω) (result : Except Error α) (after : Progress) (s' : Session ω) : Prop :=
  (part.run.run progress).perform host s = ((result, after), s')

/-- The steps that make a workspace go well up to one that fails: its phase, its error, what was
made by then, and the state it leaves. -/
inductive Breaks (setup : Setup) (workspace : Workspace) (config : Config) (host : Host ω)
    (s : Session ω) : AddState → Error → Progress → Session ω → Prop
  | worktree {e : Error} {p : Progress} {s' : Session ω}
      (fails : EndsWith (createWorktree setup workspace.branch) host {} s (.error e) p s') :
      Breaks setup workspace config host s .creatingWorktree e p s'
  | window {path : String} {p1 p : Progress} {s1 s' : Session ω} {e : Error}
      (worktree : EndsWith (createWorktree setup workspace.branch) host {} s (.ok path) p1 s1)
      (fails : EndsWith (createWindow setup workspace path) host p1 s1 (.error e) p s') :
      Breaks setup workspace config host s .creatingWindow e p s'
  | hooks {path : String} {window : Mux.Window} {p1 p2 p : Progress} {s1 s2 s' : Session ω}
      {e : Error}
      (worktree : EndsWith (createWorktree setup workspace.branch) host {} s (.ok path) p1 s1)
      (opened : EndsWith (createWindow setup workspace path) host p1 s1 (.ok window) p2 s2)
      (fails : EndsWith (runHooks workspace config path) host p2 s2 (.error e) p s') :
      Breaks setup workspace config host s .runningHooks e p s'
  | panes {path : String} {window : Mux.Window} {p1 p2 p3 p : Progress}
      {s1 s2 s3 s' : Session ω} {e : Error}
      (worktree : EndsWith (createWorktree setup workspace.branch) host {} s (.ok path) p1 s1)
      (opened : EndsWith (createWindow setup workspace path) host p1 s1 (.ok window) p2 s2)
      (hooks : EndsWith (runHooks workspace config path) host p2 s2 (.ok ()) p3 s3)
      (fails : EndsWith (setUpPanes setup workspace window path config.effectivePanes) host p3 s3
        (.error e) p s') :
      Breaks setup workspace config host s .settingUpPanes e p s'
  | showing {path : String} {window : Mux.Window} {deliveries : List (String × String)}
      {p1 p2 p3 p4 p : Progress} {s1 s2 s3 s4 s' : Session ω} {e : Error}
      (worktree : EndsWith (createWorktree setup workspace.branch) host {} s (.ok path) p1 s1)
      (opened : EndsWith (createWindow setup workspace path) host p1 s1 (.ok window) p2 s2)
      (hooks : EndsWith (runHooks workspace config path) host p2 s2 (.ok ()) p3 s3)
      (panes : EndsWith (setUpPanes setup workspace window path config.effectivePanes) host p3 s3
        (.ok deliveries) p4 s4)
      (fails : EndsWith (awaitPanes setup window.name) host p4 s4 (.error e) p s') :
      Breaks setup workspace config host s .settingUpPanes e p s'

/-- Once the panes are shown nothing can fail. -/
theorem not_failed_of_shown {deliveries : List (String × String)} {p p' : Progress} {e : Error} :
    ¬ EndsWith (do
      if !deliveries.isEmpty then Adding.lift (Act.pause (config.settleDelay * 1000))
      deliver setup workspace deliveries) host p s (.error e) p' s' := by
  have gives : Gives (do
      if !deliveries.isEmpty then Adding.lift (Act.pause (config.settleDelay * 1000))
      deliver setup workspace deliveries : Adding ω Unit) p fun result _ => result = .ok () := by
    have delivers : (deliver setup workspace deliveries : Adding ω Unit).Gives p
        fun result _ => result = .ok () :=
      fun host s => (deliver_gives setup workspace deliveries p host s).1
    dsimp only
    split
    · exact Adding.gives_lift_bind fun _ => delivers
    · exact delivers
  intro failed
  have done := gives host s
  rw [failed] at done
  cases done

theorem provision_breaks {e : Error} {p : Progress}
    (failed : EndsWith (provision setup workspace config) host {} s (.error e) p s') :
    ∃ step, Breaks setup workspace config host s step e p s' := by
  unfold provision at failed
  rcases Adding.failed_of_bind failed with fails | ⟨path, p1, s1, worktree, failed⟩
  · exact ⟨_, .worktree fails⟩
  rcases Adding.failed_of_bind failed with fails | ⟨window, p2, s2, opened, failed⟩
  · exact ⟨_, .window worktree fails⟩
  rcases Adding.failed_of_bind failed with fails | ⟨_, p3, s3, hooks, failed⟩
  · exact ⟨_, .hooks worktree opened fails⟩
  rcases Adding.failed_of_bind failed with fails | ⟨deliveries, p4, s4, panes, failed⟩
  · exact ⟨_, .panes worktree opened hooks fails⟩
  rcases Adding.failed_of_bind failed with fails | ⟨_, p5, s5, shown, failed⟩
  · exact ⟨_, .showing worktree opened hooks panes fails⟩
  · exact absurd failed not_failed_of_shown

theorem Breaks.phase {step : AddState} {e : Error} {p : Progress}
    (breaks : Breaks setup workspace config host s step e p s') : e.phase = .add step := by
  cases breaks with
  | worktree fails =>
    have gives := createWorktree_gives setup workspace.branch host s
    rw [fails] at gives
    exact gives.1
  | @window path p1 _ s1 _ _ worktree fails =>
    have gives := createWindow_gives setup workspace path p1 host s1
    rw [fails] at gives
    exact gives.1
  | @hooks path _ _ p2 _ _ s2 _ _ worktree opened fails =>
    have gives := runHooks_gives workspace config path p2 host s2
    rw [fails] at gives
    exact gives.blames e rfl
  | @panes path window _ _ p3 _ _ _ s3 _ _ worktree opened hooks fails =>
    have gives := setUpPanes_gives setup workspace window path config.effectivePanes p3 host s3
    rw [fails] at gives
    exact gives.blames e rfl
  | @showing path window _ _ _ _ p4 _ _ _ _ s4 _ _ worktree opened hooks panes fails =>
    have gives := awaitPanes_gives setup window.name p4 host s4
    rw [fails] at gives
    exact gives.blames e rfl

/-! ## Rolling back -/

/-- What attempts took away, in order.  What was missing by then counts as removed. -/
def removedBy (attempts : List (Resource × Fate)) : List Resource :=
  attempts.filterMap fun (resource, fate) =>
    match fate with
    | .removed | .missing => some resource
    | .remains _ => none

/-- An error for each attempt that failed, in order. -/
def errorsOf (attempts : List (Resource × Fate)) : List Error :=
  attempts.filterMap fun (_, fate) =>
    match fate with
    | .removed | .missing => none
    | .remains cause => some { phase := .rollback, kind := .teardown, cause }

/-- Each attempt counts once. -/
theorem length_removedBy_add_errorsOf (attempts : List (Resource × Fate)) :
    (removedBy attempts).length + (errorsOf attempts).length = attempts.length := by
  induction attempts with
  | nil => rfl
  | cons attempt rest ih =>
    obtain ⟨resource, fate⟩ := attempt
    cases fate with
    | removed | missing =>
      change (removedBy rest).length + 1 + (errorsOf rest).length = rest.length + 1
      omega
    | remains cause =>
      change (removedBy rest).length + ((errorsOf rest).length + 1) = rest.length + 1
      omega

/-- Each thing that was made, panes apart, is told once: as removed, or by an error. -/
theorem length_told {created : List Resource} {attempts : List (Resource × Fate)}
    (order : attempts.map Prod.fst = undoOrder created) :
    (removedBy attempts).length + (errorsOf attempts).length =
      (created.filter (·.pane?.isNone)).length := by
  rw [length_removedBy_add_errorsOf, ← List.length_map Prod.fst, order, undoOrder,
    List.filter_reverse, List.length_reverse]

theorem of_mem_errorsOf {attempts : List (Resource × Fate)} {e : Error}
    (member : e ∈ errorsOf attempts) : e.phase = .rollback ∧ e.kind = .teardown := by
  obtain ⟨⟨resource, fate⟩, -, shape⟩ := List.mem_filterMap.mp member
  cases fate with
  | removed | missing => cases shape
  | remains cause =>
    cases shape
    exact ⟨rfl, rfl⟩

/-- An act whose answer settles what becomes of a resource may give just whether it remains. -/
theorem run_eq_toExcept {ε : Type} {answer : Act ω (Except ε Unit)} {fate : Except ε Unit → Fate}
    {tell : Except ε Unit → ExceptT Cause (Act ω) Unit}
    (tells : ∀ result, (tell result).run = pure (fate result).toExcept) :
    (ExceptT.lift answer >>= tell).run =
      (answer >>= fun result => pure (fate result)) >>= fun fate => pure fate.toExcept := by
  rw [ExceptT.run_bind, ExceptT.run_lift, map_eq_pure_bind, bind_assoc, bind_assoc]
  refine bind_congr fun result => ?_
  rw [pure_bind, pure_bind]
  exact tells result

/-- To undo what was made is to attempt, by force, to take it away. -/
theorem undo_eq_attempt (setup : Setup) (resource : Resource) :
    (undo setup resource : ExceptT Cause (Act ω) Unit).run =
      attempt setup true resource >>= fun fate => pure fate.toExcept := by
  cases resource with
  | pane window pane => rfl
  | window name | worktree branch path | branch name =>
    refine run_eq_toExcept fun result => ?_
    rcases result with e | _
    · cases e <;> rfl
    · rfl

/-- A rollback is nothing but attempts, by force, at one resource after another. -/
theorem rollBack_eq_attemptAll (setup : Setup) (resources : List Resource) :
    (rollBack setup resources : Act ω (List Resource × List Error)) =
      attemptAll setup true resources >>= fun attempts =>
        pure (removedBy attempts, errorsOf attempts) := by
  induction resources with
  | nil => rfl
  | cons resource rest ih =>
    rw [rollBack, attemptAll, undo_eq_attempt, ih]
    simp only [bind_assoc, pure_bind]
    refine bind_congr fun fate => ?_
    cases fate <;> rfl

theorem perform_rollBack {resources : List Resource} {attempts : List (Resource × Fate)}
    (attempted : (attemptAll setup true resources).perform host s = (attempts, s')) :
    (rollBack setup resources).perform host s = ((removedBy attempts, errorsOf attempts), s') := by
  rw [rollBack_eq_attemptAll, perform_bind attempted]
  rfl

/-! ## The whole addition -/

/-- All steps of an addition go well: what they made, and the state they leave. -/
inductive Succeeds (setup : Setup) (branch : String) (config : Config) (host : Host ω)
    (s : Session ω) : List Resource → Session ω → Prop
  | making {guard : Guard} {s1 s2 s' : Session ω} {p : Progress}
      (locked : (acquire setup.lockTable branch).perform host s = (.ok guard, s1))
      (valid : (validate setup (setup.workspace branch) config).run.perform host s1 =
        (.ok (), s2))
      (made : EndsWith (provision setup (setup.workspace branch) config) host {} s2 (.ok ()) p s') :
      Succeeds setup branch config host s p.created s'

/-- An addition goes well up to a step that fails: its phase, its error, what was made by then, and
the state it leaves. -/
inductive Fails (setup : Setup) (branch : String) (config : Config) (host : Host ω)
    (s : Session ω) : AddState → Error → List Resource → Session ω → Prop
  | lock {e : LockError} {s' : Session ω}
      (refused : (acquire setup.lockTable branch).perform host s = (.error e, s')) :
      Fails setup branch config host s .validating (rejection (.lock e)) [] s'
  | validation {guard : Guard} {s1 s' : Session ω} {e : Error}
      (locked : (acquire setup.lockTable branch).perform host s = (.ok guard, s1))
      (rejected : (validate setup (setup.workspace branch) config).run.perform host s1 =
        (.error e, s')) :
      Fails setup branch config host s .validating e [] s'
  | making {guard : Guard} {s1 s2 s' : Session ω} {step : AddState} {e : Error} {p : Progress}
      (locked : (acquire setup.lockTable branch).perform host s = (.ok guard, s1))
      (valid : (validate setup (setup.workspace branch) config).run.perform host s1 =
        (.ok (), s2))
      (breaks : Breaks setup (setup.workspace branch) config host s2 step e p s') :
      Fails setup branch config host s step e p.created s'

theorem Fails.phase {step : AddState} {e : Error} {created : List Resource}
    (fails : Fails setup branch config host s step e created s') : e.phase = .add step := by
  cases fails with
  | lock refused => rfl
  | @validation _ s1 _ _ locked rejected =>
    have blames := validate_blames setup (setup.workspace branch) config host s1
    rw [rejected] at blames
    exact blames e rfl
  | making locked valid breaks => exact breaks.phase

theorem perform_build_ok {progress : Progress}
    (made : EndsWith (provision setup workspace config) host {} s (.ok ()) progress s') :
    (build setup workspace config).perform host s =
      ({ state := .ready, workspace, succeeded := true, created := progress.created,
         warnings := progress.warnings, hooks := progress.hooks }, s') := by
  unfold build
  rw [perform_bind made]
  rfl

theorem perform_build_error {progress : Progress} {e : Error} {removed : List Resource}
    {errors : List Error} {after : Session ω}
    (failed : EndsWith (provision setup workspace config) host {} s (.error e) progress s')
    (undone : (rollBack setup (undoOrder progress.created)).perform host s' =
      ((removed, errors), after)) :
    (build setup workspace config).perform host s =
      ({ state := .failed, workspace, created := progress.created, removed, errors := e :: errors,
         warnings := progress.warnings, hooks := progress.hooks }, after) := by
  unfold build
  rw [perform_bind failed]
  dsimp only
  rw [perform_bind undone]
  rfl

theorem perform_addLocked {o : Outcome AddState} {s1 : Session ω}
    (valid : (validate setup workspace config).run.perform host s = (.ok (), s1))
    (built : (build setup workspace config).perform host s1 = (o, s')) :
    (addLocked setup workspace config).perform host s = (o, s') := by
  unfold addLocked
  rw [perform_bind valid]
  exact built

theorem perform_addLocked_error {e : Error}
    (rejected : (validate setup workspace config).run.perform host s = (.error e, s')) :
    (addLocked setup workspace config).perform host s =
      ({ state := .failed, workspace, errors := [e] }, s') := by
  unfold addLocked
  rw [perform_bind rejected]
  rfl

theorem perform_add_error {e : LockError}
    (refused : (acquire setup.lockTable branch).perform host s = (.error e, s')) :
    (add setup branch config).perform host s =
      ({ state := .failed, workspace := setup.workspace branch,
         errors := [rejection (.lock e)] }, s') := by
  unfold add
  dsimp only
  rw [perform_bind refused]
  rfl

theorem perform_add {guard : Guard} {s1 : Session ω} {o : Outcome AddState}
    (locked : (acquire setup.lockTable branch).perform host s = (.ok guard, s1))
    (inside : (addLocked setup (setup.workspace branch) config).perform host s1 = (o, s')) :
    (add setup branch config).perform host s = (o, ((release guard).perform host s').2) := by
  unfold add
  dsimp only
  rw [perform_bind locked]
  dsimp only
  rw [perform_bind inside]
  rfl

/-- How an addition may end: ready once all was made, or failed once all that was made was attempted
to be taken away.  Nothing is run after that. -/
inductive Ended (setup : Setup) (branch : String) (config : Config) (host : Host ω)
    (s : Session ω) (o : Outcome AddState) (ended : Session ω) : Prop
  | ready {made : Session ω} (state : o.state = .ready) (succeeded : o.succeeded = true)
      (succeeds : Succeeds setup branch config host s o.created made)
      (ran : ended.commands = made.commands) (removed : o.removed = []) (errors : o.errors = [])
      (stocked : Stocked (o.created.map Resource.kind))
  | failed {step : AddState} {e : Error} {failedIn undone : Session ω}
      {attempts : List (Resource × Fate)} (state : o.state = .failed)
      (succeeded : o.succeeded = false)
      (fails : Fails setup branch config host s step e o.created failedIn)
      (attempted : (attemptAll setup true (undoOrder o.created)).perform host failedIn =
        (attempts, undone))
      (ran : ended.commands = undone.commands) (removed : o.removed = removedBy attempts)
      (errors : o.errors = e :: errorsOf attempts)
      (stocked : Stocked (o.created.map Resource.kind))

/-- An end stays what it is where no further command is run. -/
theorem Ended.later {o : Outcome AddState} {ended later : Session ω}
    (accounted : Ended setup branch config host s o ended)
    (same : later.commands = ended.commands) : Ended setup branch config host s o later := by
  cases accounted with
  | ready state succeeded succeeds ran removed errors stocked =>
    exact .ready state succeeded succeeds (same.trans ran) removed errors stocked
  | failed state succeeded fails attempted ran removed errors stocked =>
    exact .failed state succeeded fails attempted (same.trans ran) removed errors stocked

theorem build_ended {guard : Guard} {s1 s2 : Session ω}
    (locked : (acquire setup.lockTable branch).perform host s = (.ok guard, s1))
    (valid : (validate setup (setup.workspace branch) config).run.perform host s1 = (.ok (), s2)) :
    Ended setup branch config host s
      ((build setup (setup.workspace branch) config).perform host s2).1
      ((build setup (setup.workspace branch) config).perform host s2).2 := by
  have stocked := provision_stocked setup (setup.workspace branch) config host s2
  cases made : ((provision setup (setup.workspace branch) config).run.run {}).perform host s2 with
  | mk result s3 =>
  obtain ⟨result, progress⟩ := result
  rw [made] at stocked
  cases result with
  | ok _ =>
    rw [perform_build_ok made]
    exact .ready rfl rfl (.making locked valid made) rfl rfl rfl stocked
  | error e =>
    obtain ⟨step, breaks⟩ := provision_breaks made
    cases attempted : (attemptAll setup true (undoOrder progress.created)).perform host s3 with
    | mk attempts undone =>
    rw [perform_build_error made (perform_rollBack attempted)]
    exact .failed rfl rfl (.making locked valid breaks) attempted rfl rfl rfl stocked

theorem addLocked_ended {guard : Guard} {s1 : Session ω}
    (locked : (acquire setup.lockTable branch).perform host s = (.ok guard, s1)) :
    Ended setup branch config host s
      ((addLocked setup (setup.workspace branch) config).perform host s1).1
      ((addLocked setup (setup.workspace branch) config).perform host s1).2 := by
  cases verdict : (validate setup (setup.workspace branch) config).run.perform host s1 with
  | mk result s2 =>
  cases result with
  | ok _ =>
    rw [perform_addLocked verdict rfl]
    exact build_ended locked verdict
  | error e =>
    rw [perform_addLocked_error verdict]
    exact .failed rfl rfl (.validation locked verdict) rfl rfl rfl rfl .nothing

end Add

theorem add_ended (setup : Setup) (branch : String) (config : Config) (host : Host ω)
    (s : Session ω) :
    Add.Ended setup branch config host s ((add setup branch config).perform host s).1
      ((add setup branch config).perform host s).2 := by
  cases lock : (acquire setup.lockTable branch : Act ω _).perform host s with
  | mk guard? s1 =>
  cases guard? with
  | error e =>
    rw [Add.perform_add_error lock]
    exact .failed rfl rfl (.lock lock) rfl rfl rfl rfl .nothing
  | ok guard =>
    rw [Add.perform_add lock rfl]
    exact (Add.addLocked_ended lock).later rfl

/-- **An addition accounts for all that it did.** It is ready exactly if it tells of no error; then
nothing was run once all was made, and nothing is told to be removed. Otherwise the error of the
step that failed comes first; from there on all that was made, panes apart, was attempted to be
taken away by force, each thing once, the latest first and whatever came of those before, and
nothing else was run. Each attempt shows either among what was removed or as one error of the
rollback. -/
theorem add_accounts (setup : Setup) (branch : String) (config : Config) (host : Host ω)
    (s : Session ω) :
    let ended := (add setup branch config).perform host s
    let o := ended.1
    (o.state = .ready ∨ o.state = .failed) ∧ (o.succeeded = true ↔ o.state = .ready) ∧
      (o.state = .ready ↔ o.errors = []) ∧ Add.Stocked (o.created.map Resource.kind) ∧
      (o.state = .ready → o.removed = [] ∧ ∃ made,
        Add.Succeeds setup branch config host s o.created made ∧
        ended.2.commands = made.commands) ∧
      (o.state = .failed → ∃ step e failedIn attempts undone,
        Add.Fails setup branch config host s step e o.created failedIn ∧ e.phase = .add step ∧
        (Remove.attemptAll setup true (o.created.reverse.filter (·.pane?.isNone))).perform host
          failedIn = (attempts, undone) ∧
        attempts.map Prod.fst = o.created.reverse.filter (·.pane?.isNone) ∧
        ended.2.commands = undone.commands ∧
        o.removed = Add.removedBy attempts ∧ o.errors = e :: Add.errorsOf attempts ∧
        (∀ e' ∈ Add.errorsOf attempts, e'.phase = .rollback ∧ e'.kind = .teardown) ∧
        o.removed.length + o.errors.length =
          1 + (o.created.filter (·.pane?.isNone)).length) := by
  intro ended o
  have accounted : Add.Ended setup branch config host s o ended.2 :=
    add_ended setup branch config host s
  cases accounted with
  | @ready made state succeeded succeeds ran removed errors stocked =>
    refine ⟨.inl state, iff_of_true succeeded state, iff_of_true state errors, stocked,
      fun _ => ⟨removed, made, succeeds, ran⟩, fun failed => ?_⟩
    rw [state] at failed
    cases failed
  | @failed step e failedIn undone attempts state succeeded fails attempted ran removed errors
      stocked =>
    have unready : o.state ≠ .ready := by
      rw [state]
      decide
    have order : attempts.map Prod.fst = Add.undoOrder o.created :=
      Remove.order_of_attempted attempted
    refine ⟨.inr state, iff_of_false (by simp [succeeded]) unready,
      iff_of_false unready (by simp [errors]), stocked, fun ready => absurd ready unready,
      fun _ => ⟨step, e, failedIn, attempts, undone, fails, fails.phase, attempted, order, ran,
        removed, errors, fun e' member => Add.of_mem_errorsOf member, ?_⟩⟩
    rw [removed, errors, List.length_cons, ← Add.length_told order]
    omega

end Worktop.Lifecycle

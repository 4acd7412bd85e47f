import Worktop.Proofs.Accounting
import Worktop.Proofs.Addition
import Worktop.Proofs.Bracket
import Worktop.Proofs.LockTraces
import Worktop.Proofs.Queries

/-! # Additions that are rejected

Before an addition makes anything it asks four questions, always in the same order
(`Worktop.Lifecycle.Add.queries`), and it stops at the first answer that stands against it. Whatever
goes wrong later is blamed on a later step and is no matter of validation
(`Worktop.Lifecycle.Add.Late`), so that an error tells whether there is something to undo. Main
statement: a rejected addition leaves nothing behind but its lock file, and nothing but a rejection
calls itself one (`Worktop.Lifecycle.rejected_add_leaves_nothing`).
-/

namespace Worktop

open Act hiding gives_lift_bind

variable {ω α β ε : Type}

/-! ## Configurations that are unfit -/

namespace Config

/-- The first pane is to be split off, a command or a hook is nothing but blanks, or the prefix has
a colon or a full stop in it. -/
def Unfit (c : Config) : Prop :=
  (∃ first ∈ c.panes.head?, first.split ≠ none) ∨
    (∃ pane ∈ c.panes, ∃ command ∈ pane.command, ∀ ch ∈ command.toList, Text.isBlank ch) ∨
    (∃ hook ∈ c.postCreate, ∀ ch ∈ hook.toList, Text.isBlank ch) ∨
    ':' ∈ c.windowPrefix.toList ∨ '.' ∈ c.windowPrefix.toList

theorem fault?_eq_none_iff {c : Config} : c.fault? = none ↔ ¬ c.Unfit := by
  have first : (c.panes.head?.bind (·.split)).isSome = true ↔
      ∃ first ∈ c.panes.head?, first.split ≠ none := by
    cases c.panes.head? with
    | none => simp
    | some pane => simp [Option.isSome_iff_ne_none]
  have commands : (c.panes.findIdx? fun p => (p.command.map Text.isBlankText).getD false) = none ↔
      ¬ ∃ pane ∈ c.panes, ∃ command ∈ pane.command, ∀ ch ∈ command.toList, Text.isBlank ch := by
    have blank : ∀ p : PaneSpec, (p.command.map Text.isBlankText).getD false = true ↔
        ∃ command ∈ p.command, ∀ ch ∈ command.toList, Text.isBlank ch := by
      intro p
      cases p.command with
      | none => simp
      | some command => simp [Text.isBlankText]
    rw [List.findIdx?_eq_none_iff]
    simp only [← blank, not_exists, not_and, Bool.not_eq_true]
  have hooks : c.postCreate.findIdx? Text.isBlankText = none ↔
      ¬ ∃ hook ∈ c.postCreate, ∀ ch ∈ hook.toList, Text.isBlank ch := by
    rw [List.findIdx?_eq_none_iff]
    simp [Text.isBlankText]
  have punctuation : (c.windowPrefix.toList.any fun ch => ch = ':' || ch = '.') = true ↔
      ':' ∈ c.windowPrefix.toList ∨ '.' ∈ c.windowPrefix.toList := by
    simp [and_or_left, exists_or]
  unfold fault? Unfit
  rw [← punctuation, ← first]
  dsimp only
  split
  · rename_i splits
    simp [splits]
  · rename_i whole
    simp [Option.or_eq_none_iff, commands, hooks, whole]

theorem validate_of_unfit {c : Config} (unfit : c.Unfit) : ∃ e, c.validate = .error e := by
  unfold validate
  cases fault : c.fault? with
  | none => exact absurd unfit (fault?_eq_none_iff.mp fault)
  | some f => exact ⟨_, rfl⟩

end Config

namespace Lifecycle

variable {setup : Setup} {workspace : Workspace} {branch : String} {config : Config}

/-! ## Errors of parts of an addition -/

namespace Adding

/-- Whatever the outside answers, and whatever was made before, a part of an addition fails only
with certain errors. -/
structure Raises (part : Adding ω α) (error : Error → Prop) : Prop where
  gives : ∀ progress, part.Gives progress fun result _ => ∀ e, result = .error e → error e

variable {error : Error → Prop}

theorem raises_pure (a : α) : Raises (pure a : Adding ω α) error :=
  ⟨fun _ => gives_pure fun _ same => nomatch same⟩

theorem raises_throw {e : Error} (holds : error e) : Raises (throw e : Adding ω α) error := by
  refine ⟨fun progress => gives_throw ?_⟩
  intro e' same
  cases same
  exact holds

theorem Raises.bind {x : Adding ω α} {f : α → Adding ω β} (before : x.Raises error)
    (after : ∀ a, (f a).Raises error) : Raises (x >>= f) error := by
  refine ⟨fun progress => (before.gives progress).bind (fun a between _ => ?_) ?_⟩
  · exact (after a).gives between
  · intro e _ raised e' same
    cases same
    exact raised e rfl

theorem raises_get : Raises (get : Adding ω Progress) error :=
  ⟨fun _ _ _ _ same => nomatch same⟩

theorem raises_modify (change : Progress → Progress) :
    Raises (modify change : Adding ω Unit) error :=
  ⟨fun _ _ _ _ same => nomatch same⟩

theorem raises_lift (act : Act ω α) : Raises (lift act) error :=
  ⟨fun _ _ _ _ same => nomatch same⟩

theorem raises_attempt (act : ExceptT ε (Act ω) α) {blame : ε → Error}
    (holds : ∀ e, error (blame e)) : Raises (attempt act blame) error := by
  unfold attempt
  apply (raises_lift _).bind
  intro result
  cases result with
  | ok a => exact raises_pure a
  | error e => exact raises_throw (holds e)

end Adding

namespace Add

open Adding (Raises raises_attempt raises_get raises_lift raises_modify raises_pure raises_throw)

/-- An error that arose after validation, and is told so. -/
structure Late (e : Error) : Prop where
  phase : e.phase ≠ .add .validating
  kind : e.kind ≠ .validation

theorem late_failedIn {state : AddState} (later : state ≠ .validating) (cause : Cause) :
    Late (failedIn state cause) := by
  refine ⟨?_, nofun⟩
  intro same
  cases same
  exact later rfl

theorem createWorktree_late : (createWorktree setup branch : Adding ω String).Raises Late := by
  unfold createWorktree
  apply (raises_lift _).bind
  intro result
  cases result with
  | ok path =>
    exact (raises_modify _).bind fun _ => (raises_modify _).bind fun _ => raises_pure path
  | error e =>
    have failed :
        Raises (throw (failedIn .creatingWorktree (.worktree e)) : Adding ω String) Late :=
      raises_throw (late_failedIn (by decide) _)
    apply (raises_lift _).bind
    intro left
    dsimp only
    split
    · exact failed
    · exact (raises_modify _).bind fun _ => failed
    · exact failed

theorem createWindow_late (path : String) :
    (createWindow setup workspace path : Adding ω Mux.Window).Raises Late := by
  unfold createWindow
  apply (raises_attempt _ fun e => late_failedIn (by decide) (.mux e)).bind
  intro window
  exact (raises_modify _).bind fun _ => (raises_modify _).bind fun _ => raises_pure window

theorem runHooks_late (path : String) :
    (runHooks workspace config path : Adding ω Unit).Raises Late := by
  unfold runHooks
  apply (raises_lift _).bind
  intro start
  apply (raises_attempt _ fun e => ⟨nofun, nofun⟩).bind
  intro steps
  exact (raises_lift _).bind fun finish => raises_modify _

theorem splitPanes_late (window path : String) (specs : List PaneSpec) (current : String) :
    (splitPanes setup workspace window path current specs :
      Adding ω (List (String × String))).Raises Late := by
  induction specs generalizing current with
  | nil => exact raises_pure _
  | cons spec specs ih =>
    unfold splitPanes
    cases spec.split with
    | none => exact (raises_pure current).bind fun pane => (ih pane).bind fun _ => raises_pure _
    | some direction =>
      apply (raises_attempt _ fun e => late_failedIn (by decide) (.mux e)).bind
      intro pane
      apply (raises_modify _).bind
      intro _
      exact (raises_pure pane).bind fun pane => (ih pane).bind fun _ => raises_pure _

theorem deliver_late (deliveries : List (String × String)) :
    (deliver setup workspace deliveries : Adding ω Unit).Raises Late := by
  induction deliveries with
  | nil => exact raises_pure ()
  | cons delivery rest ih =>
    obtain ⟨pane, command⟩ := delivery
    unfold deliver
    apply (raises_lift _).bind
    intro sent
    cases sent with
    | ok _ => exact ih
    | error e => exact (raises_modify _).bind fun _ => ih

theorem furnish_late (path : String) (window : Mux.Window) :
    (furnish setup workspace config path window : Adding ω Unit).Raises Late := by
  unfold furnish
  apply (runHooks_late path).bind
  intro _
  have panes : (setUpPanes setup workspace window path config.effectivePanes :
      Adding ω (List (String × String))).Raises Late := by
    cases config.effectivePanes with
    | nil => exact raises_pure _
    | cons first rest =>
      exact (splitPanes_late window.name path rest window.pane).bind fun _ => raises_pure _
  apply panes.bind
  intro deliveries
  have shows : (awaitPanes setup window.name : Adding ω Unit).Raises Late :=
    raises_get.bind fun progress => raises_attempt _ fun e => late_failedIn (by decide) (.poll e)
  apply shows.bind
  intro _
  dsimp only
  split
  · exact (raises_lift _).bind fun _ => deliver_late deliveries
  · exact deliver_late deliveries

/-- Whatever fails once an addition is validated is blamed on a later step. -/
theorem provision_late (setup : Setup) (workspace : Workspace) (config : Config) :
    (provision setup workspace config : Adding ω Unit).Raises Late := by
  rw [provision_eq]
  apply createWorktree_late.bind
  intro path
  exact (createWindow_late path).bind fun window => furnish_late path window

/-! ## Validation -/

/-- What is asked before anything is made, in order: whether the multiplexer answers, whether the
name is one for a branch, whether there is such a branch, and which windows there are. -/
def queries (setup : Setup) (branch : String) : List Command :=
  [setup.mux.runningQuery,
    setup.repository.git ["check-ref-format", "--branch", branch],
    setup.repository.git ["show-ref", "--quiet", "--verify", "refs/heads/" ++ branch],
    setup.mux.windowQuery]

theorem check_inquires {act : ExceptT ε (Act ω) α} {commands : List Command}
    (inquires : Inquires act commands) (blame : ε → Error) :
    Inquires (check act blame) commands := by
  intro host s
  obtain ⟨asked, front, state, whole⟩ := inquires host s
  cases done : act.run.perform host s with
  | mk result between =>
  rw [done] at state whole
  unfold check
  rw [perform_lift_bind done]
  cases result with
  | ok a => exact ⟨asked, front, state, fun _ _ => whole a rfl⟩
  | error e => exact ⟨asked, front, state, fun _ same => nomatch same⟩

theorem validate_inquires (setup : Setup) (workspace : Workspace) (config : Config) :
    Inquires (validate setup workspace config : ExceptT Error (Act ω) Unit)
      (queries setup workspace.branch) := by
  unfold validate
  dsimp only
  split
  · rw [throw_bind]
    exact inquires_error _ _
  split
  · rw [throw_bind]
    exact inquires_error _ _
  apply (check_inquires Multiplexer.isRunning_asks.inquires _).andThen
  intro running
  split
  · rw [throw_bind]
    exact inquires_error _ _
  apply (check_inquires (Repository.validateBranchName_inquires _) _).andThen
  intro _
  apply (check_inquires (Repository.branchExists_reads _).asks.inquires _).andThen
  intro found
  split
  · rw [throw_bind]
    exact inquires_error _ _
  apply (check_inquires (Multiplexer.windowExists_reads _).asks.inquires _).andThen
  intro taken
  split
  · exact inquires_error _ _
  · exact inquires_ok _

/-- A configuration that is unfit, or asks for what the multiplexer cannot do, is turned down
without asking anyone. -/
theorem validate_of_unfit
    (unfit : config.Unfit ∨ setup.mux.capabilities.split = false ∧ config.splits = true) :
    ∃ cause, (validate setup workspace config : ExceptT Error (Act ω) Unit) =
      throw (rejection cause) := by
  unfold validate
  dsimp only
  cases verdict : config.validate with
  | error e => exact ⟨.config e, rfl⟩
  | ok _ =>
    obtain unfit | ⟨whole, splits⟩ := unfit
    · obtain ⟨e, invalid⟩ := Config.validate_of_unfit unfit
      rw [verdict] at invalid
      cases invalid
    · rw [whole, splits]
      exact ⟨_, rfl⟩

/-! ## The whole addition -/

/-- Where something was begun, no error is one of validation. -/
theorem build_late (setup : Setup) (workspace : Workspace) (config : Config) :
    Gives (build setup workspace config : Act ω (Outcome AddState)) fun o =>
      ∀ e ∈ o.errors, Late e := by
  intro host s
  have late := (provision_late setup workspace config).gives {} host s
  cases made : ((provision setup workspace config).run.run {}).perform host s with
  | mk result s' =>
  obtain ⟨result, progress⟩ := result
  rw [made] at late
  unfold build
  rw [perform_bind made]
  cases result with
  | ok _ => exact fun e member => absurd member List.not_mem_nil
  | error e =>
    cases attempted : (Remove.attemptAll setup true (undoOrder progress.created)).perform host
      s' with
    | mk attempts after =>
    dsimp only
    rw [perform_bind (perform_rollBack attempted)]
    intro e' member
    rcases List.mem_cons.mp member with rfl | others
    · exact late e' rfl
    · obtain ⟨phase, kind⟩ := of_mem_errorsOf others
      exact ⟨by rw [phase]; decide, by rw [kind]; decide⟩

/-- What an addition did, as far as its errors tell: `asked` are the commands it ran, and `files`
are those there were when its lock was taken or refused. -/
structure Disclosed (setup : Setup) (branch : String) (config : Config) (host : Host ω)
    (s : Session ω) (asked : List Command) (files : FileSystem) (o : Outcome AddState)
    (after : Session ω) : Prop where
  commands : after.commands = s.commands ++ asked
  traces : LockTraces setup.lockTable branch s.files files
  rejected : ∀ e ∈ o.errors.head?, e.phase = .add .validating →
    o.errors = [e] ∧ o.created = [] ∧ o.removed = [] ∧ o.hooks = none ∧
      asked <+: queries setup branch ∧
      (after.outside, after.files) = host.answerAll asked (s.outside, files)
  unfit : config.Unfit ∨ setup.mux.capabilities.split = false ∧ config.splits = true →
    asked = [] ∧ ∃ cause, o.errors = [rejection cause]
  begun : ¬ asked <+: queries setup branch → ∀ e ∈ o.errors, e.kind ≠ .validation

variable {host : Host ω} {s : Session ω} {locks : Locks} {files : FileSystem}

theorem disclosed_of_refused {e : LockError}
    (refused : s.locks.acquire s.files setup.lockTable branch = (.error e, locks, files)) :
    Disclosed setup branch config host s [] files
      ((add setup branch config).perform host s).1
      ((add setup branch config).perform host s).2 := by
  have traces := s.locks.traces_acquire s.files setup.lockTable branch
  rw [refused] at traces
  rw [add_eq_underLock, perform_underLock_error _ _ host refused]
  constructor
  case commands => exact (List.append_nil _).symm
  case traces => exact traces
  case rejected =>
    intro e first _
    cases first
    exact ⟨rfl, rfl, rfl, rfl, List.nil_prefix, rfl⟩
  case unfit => exact fun _ => ⟨rfl, .lock e, rfl⟩
  case begun => exact fun begun => absurd List.nil_prefix begun

theorem disclosed_of_rejected {guard : Guard} {between : Session ω} {e : Error}
    (locked : s.locks.acquire s.files setup.lockTable branch = (.ok guard, locks, files))
    (rejected : (validate setup (setup.workspace branch) config).run.perform host
      ({ s with locks, files }.note (.locked guard)) = (.error e, between)) :
    ∃ asked, Disclosed setup branch config host s asked files
      ((add setup branch config).perform host s).1
      ((add setup branch config).perform host s).2 := by
  have traces := s.locks.traces_acquire s.files setup.lockTable branch
  rw [locked] at traces
  obtain ⟨asked, front, state, -⟩ := validate_inquires setup (setup.workspace branch) config host
    ({ s with locks, files }.note (.locked guard))
  rw [rejected] at state
  have done : (addLocked setup (setup.workspace branch) config).perform host
      ({ s with locks, files }.note (.locked guard)) =
        ({ state := .failed, workspace := setup.workspace branch, errors := [e] }, between) := by
    unfold addLocked
    rw [perform_bind rejected]
    rfl
  rw [add_eq_underLock, perform_underLock_ok _ locked done]
  have ran : between.commands = s.commands ++ asked :=
    (congrArg Session.commands state).trans (Session.commands_asked asked)
  have answered : (between.outside, between.files) = host.answerAll asked (s.outside, files) := by
    rw [show between = _ from state]
    exact Session.outside_asked asked
  refine ⟨asked, ran, traces, fun e' first _ => ?_, fun unfit => ?_,
    fun begun => absurd front begun⟩
  · cases first
    exact ⟨rfl, rfl, rfl, rfl, front, answered⟩
  · obtain ⟨cause, turned⟩ := validate_of_unfit unfit
    rw [turned] at rejected
    cases rejected
    have silent : s.commands = s.commands ++ asked := ran
    exact ⟨List.self_eq_append_right.mp silent, cause, rfl⟩

theorem disclosed_of_valid {guard : Guard} {between : Session ω}
    (locked : s.locks.acquire s.files setup.lockTable branch = (.ok guard, locks, files))
    (valid : (validate setup (setup.workspace branch) config).run.perform host
      ({ s with locks, files }.note (.locked guard)) = (.ok (), between)) :
    ∃ asked, Disclosed setup branch config host s asked files
      ((add setup branch config).perform host s).1
      ((add setup branch config).perform host s).2 := by
  have traces := s.locks.traces_acquire s.files setup.lockTable branch
  rw [locked] at traces
  have late := build_late setup (setup.workspace branch) config host between
  obtain ⟨events, journal, -⟩ := (addLocked_plain config).only host
    ({ s with locks, files }.note (.locked guard))
  cases built : (build setup (setup.workspace branch) config).perform host between with
  | mk o after =>
  rw [built] at late
  have done : (addLocked setup (setup.workspace branch) config).perform host
      ({ s with locks, files }.note (.locked guard)) = (o, after) := by
    unfold addLocked
    rw [perform_bind valid]
    exact built
  rw [done] at journal
  rw [add_eq_underLock, perform_underLock_ok _ locked done]
  have ran := Session.commands_of_journal journal
  refine ⟨_, ran, traces, fun e first phase => ?_, fun unfit => ?_, fun _ e member => ?_⟩
  · exact absurd phase (late e (List.mem_of_head? first)).phase
  · obtain ⟨cause, turned⟩ := validate_of_unfit unfit
    rw [turned] at valid
    cases valid
  · exact (late e member).kind

end Add

/-- **A rejected addition leaves nothing behind.** Where the first error is one of validation it is
the only one: nothing was made or removed, no more than the first few of four queries were asked,
and the files are changed by nothing but the lock and the answers. A configuration that is unfit is
rejected without asking anyone, and once anything else was asked no error is one of validation. -/
theorem rejected_add_leaves_nothing (setup : Setup) (branch : String) (config : Config)
    (host : Host ω) (s : Session ω) :
    ∃ asked files, Add.Disclosed setup branch config host s asked files
      ((add setup branch config).perform host s).1
      ((add setup branch config).perform host s).2 := by
  cases lock : s.locks.acquire s.files setup.lockTable branch with
  | mk answer rest =>
  obtain ⟨locks, files⟩ := rest
  cases answer with
  | error e => exact ⟨[], files, Add.disclosed_of_refused lock⟩
  | ok guard =>
    cases verdict : (Add.validate setup (setup.workspace branch) config).run.perform host
        ({ s with locks, files }.note (.locked guard)) with
    | mk result between =>
    cases result with
    | ok _ =>
      obtain ⟨asked, disclosed⟩ := Add.disclosed_of_valid lock verdict
      exact ⟨asked, files, disclosed⟩
    | error e =>
      obtain ⟨asked, disclosed⟩ := Add.disclosed_of_rejected lock verdict
      exact ⟨asked, files, disclosed⟩

end Lifecycle

end Worktop

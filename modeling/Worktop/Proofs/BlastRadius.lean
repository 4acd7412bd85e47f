import Worktop.Proofs.Addition
import Worktop.Proofs.Justification
import Worktop.Proofs.Worktree.Making

/-! # What operations may take away

An operation on a branch takes away only what it was shown to belong to the branch, whatever the
outside answers (`Worktop.Lifecycle.Call.stays_within_branch`). Closing leaves git alone, and
listing takes nothing away.
-/

namespace Worktop

open Act

variable {ω : Type} {setup : Setup} {branch : String} {adding : Prop}

/-! ## Adding a workspace -/

namespace Lifecycle.Add

open Adding (Keeps)

variable {α : Type}

theorem harmless_justified {act : Act ω α} (harmless : act.Only fun c => ¬ c.Destructive) :
    act.Always (Justified setup branch adding) :=
  harmless.mono fun _ _ only => justified_of_mild only

theorem mild_justified {act : Act ω α} {m : Multiplexer} (mild : act.Within m.Mild) :
    act.Always (Justified setup branch adding) :=
  harmless_justified (mild.imp fun _ mild => mild.2).only

theorem validate_justified (workspace : Workspace) (config : Config) :
    Always (validate setup workspace config : ExceptT Error (Act ω) Unit).run
      (Justified setup branch adding) := by
  refine harmless_justified (validate_within (fun _ mild => mild.2) ?_ ?_).only
  · exact Repository.mild_of_words (by simp) (by simp) (by simp)
  · exact Repository.mild_of_words (by simp) (by simp) (by simp)

theorem createWorktree_justified {progress : Progress} (own : OwnWork setup branch progress) :
    (createWorktree setup branch : Adding ω String).Emits progress fun events result after =>
      Justified setup branch adding events ∧ OwnWork setup branch after ∧
        ∀ path, result = .ok path → path = (setup.workspace branch).worktreePath := by
  have harmless : Only (setup.repository.create branch : Worktree.Result ω String).run
      fun c => ¬ c.Destructive := by
    refine (Repository.create_within ?_ ?_ ?_).only
    all_goals exact Repository.mild_of_words (by simp) (by simp) (by simp)
  have asks : Only (setup.repository.branchExists branch : Worktree.Result ω Bool).run
      fun c => ¬ c.Destructive := Repository.branchExists_mild branch
  unfold createWorktree
  refine Adding.emits_lift_bind (harmless.gives (Repository.create_path branch)) ?_
  intro result old given
  obtain ⟨only, given⟩ := given
  cases result with
  | ok path =>
    refine Adding.emits_made_bind (Adding.emits_made_bind (Adding.emits_pure ?_))
    refine ⟨justified_of_mild only, (own.made (.branch branch) rfl).made _ rfl, fun _ same => ?_⟩
    cases same
    exact given path rfl
  | error e =>
    apply Adding.emits_lift_bind asks
    intro left new only'
    have quiet : Justified setup branch adding (new ++ old) :=
      (justified_of_mild only').append (justified_of_mild only)
    dsimp only
    split
    · exact Adding.emits_throw ⟨quiet, own, fun _ same => by cases same⟩
    · refine Adding.emits_made_bind (Adding.emits_throw ?_)
      exact ⟨quiet, own.made (.branch branch) rfl, fun _ same => by cases same⟩
    · exact Adding.emits_throw ⟨quiet, own, fun _ same => by cases same⟩

theorem createWindow_justified (added : adding) :
    Keeps (createWindow setup (setup.workspace branch) (setup.workspace branch).worktreePath :
      Adding ω Mux.Window) (Justified setup branch adding) (OwnWork setup branch) := by
  intro progress own
  have always : Always (setup.mux.createWindow (setup.workspace branch).windowName
      (setup.workspace branch).worktreePath (setup.workspace branch).env :
      Mux.Result ω Mux.Window).run (Justified setup branch adding) :=
    Multiplexer.createWindow_justified added _
  unfold createWindow
  refine Adding.emits_attempt_bind (always.gives (Multiplexer.createWindow_name _ _ _ _)) ?_ ?_
  · intro window old given
    obtain ⟨justified, named⟩ := given
    refine Adding.emits_made_bind (Adding.emits_made_bind (Adding.emits_pure ?_))
    exact ⟨justified, (own.made (.window _) (named window rfl)).made _ trivial⟩
  · intro e old given
    obtain ⟨justified, -⟩ := given
    exact ⟨justified, own⟩

theorem equip_justified (added : adding) (config : Config) :
    Keeps (equip setup (setup.workspace branch) config (setup.workspace branch).worktreePath :
      Adding ω Unit) (Justified setup branch adding) (OwnWork setup branch) := by
  have furnishes : ∀ window, Keeps (furnish setup (setup.workspace branch) config
      (setup.workspace branch).worktreePath window : Adding ω Unit)
      (Justified setup branch adding) (OwnWork setup branch) :=
    fun window => (furnish_routine config _ window).keeps.mono fun _ routine =>
      justified_of_mild fun c reply member => not_destructive_of_routine (routine c reply member)
  exact (createWindow_justified added).bind furnishes

theorem provision_justified (added : adding) (config : Config) :
    Keeps (provision setup (setup.workspace branch) config : Adding ω Unit)
      (Justified setup branch adding) (OwnWork setup branch) := by
  intro progress own
  rw [provision_eq]
  refine Adding.Emits.bind (@createWorktree_justified ω setup branch adding progress own) ?_ ?_
  · intro path progress' old given
    obtain ⟨justified, own', same⟩ := given
    obtain rfl := same path rfl
    apply (equip_justified added config progress' own').mono
    intro new _ _ holds
    exact ⟨holds.1.append justified, holds.2⟩
  · intro e progress' old given
    obtain ⟨justified, own', -⟩ := given
    exact ⟨justified, own'⟩

theorem undo_justified {resource : Resource} (belongs : Belongs setup branch resource) :
    Always (undo setup resource : ExceptT Cause (Act ω) Unit).run
      (Justified setup branch adding) := by
  cases resource with
  | pane window pane => exact always_ok _
  | window name =>
    obtain rfl : name = (setup.workspace branch).windowName := belongs
    unfold undo
    apply Multiplexer.destroyWindow_justified.lift.andThen
    intro result
    split
    · exact always_ok _
    · exact always_ok _
    · exact always_error _
  | worktree owner path =>
    obtain rfl : owner = branch := belongs
    unfold undo
    apply (Repository.remove_justified true).lift.andThen
    intro result
    split
    · exact always_ok _
    · exact always_ok _
    · exact always_error _
  | branch name =>
    obtain rfl : name = branch := belongs
    unfold undo
    apply (Repository.deleteBranch_justified true).lift.andThen
    intro result
    split
    · exact always_ok _
    · exact always_ok _
    · exact always_error _

theorem rollBack_justified {resources : List Resource}
    (belong : ∀ resource ∈ resources, Belongs setup branch resource) :
    Always (rollBack setup resources : Act ω (List Resource × List Error))
      (Justified setup branch adding) := by
  induction resources with
  | nil => exact always_pure _
  | cons resource rest ih =>
    have others := ih fun other member => belong other (List.mem_cons_of_mem _ member)
    unfold rollBack
    apply (undo_justified (belong resource List.mem_cons_self)).bind
    intro result
    cases result with
    | ok _ => exact others.bind fun _ => always_pure _
    | error cause => exact others.bind fun _ => always_pure _

theorem build_justified (added : adding) (config : Config) :
    Always (build setup (setup.workspace branch) config : Act ω (Outcome AddState))
      (Justified setup branch adding) := by
  have fresh : OwnWork setup branch {} := fun _ member => (List.not_mem_nil member).elim
  unfold build
  refine Emits.bind (provision_justified added config {} fresh) ?_
  intro ended old given
  obtain ⟨result, progress⟩ := ended
  obtain ⟨justified, own⟩ := given
  cases result with
  | ok _ => exact emits_pure justified
  | error e =>
    have undoes : Always (rollBack setup (undoOrder progress.created) : Act ω _)
        (Justified setup branch adding) := by
      refine rollBack_justified fun resource member => own resource ?_
      exact List.mem_reverse.mp (List.mem_filter.mp member).1
    refine Emits.bind undoes fun _ new justified' => emits_pure ?_
    exact justified'.append justified

theorem addLocked_justified (added : adding) (config : Config) :
    Always (addLocked setup (setup.workspace branch) config : Act ω (Outcome AddState))
      (Justified setup branch adding) := by
  unfold addLocked
  apply (validate_justified _ config).bind
  intro verdict
  cases verdict with
  | ok _ => exact build_justified added config
  | error e => exact always_pure _

end Lifecycle.Add

namespace Lifecycle

theorem add_justified (added : adding) (config : Config) :
    Always (add setup branch config : Act ω (Outcome AddState))
      (Justified setup branch adding) :=
  (Add.addLocked_justified added config).locked _

/-! ## Removing, closing and listing -/

namespace Remove

theorem destroyWindow_justified :
    Always (destroyWindow setup (setup.workspace branch).windowName : Act ω Progress)
      (Justified setup branch adding) := by
  unfold destroyWindow
  apply Multiplexer.destroyWindow_justified.bind
  intro result
  split <;> exact always_pure _

theorem removeWorktree_justified (path : String) (force : Bool) :
    Always (removeWorktree setup branch path force : Act ω Progress)
      (Justified setup branch adding) := by
  unfold removeWorktree
  apply (Repository.remove_justified force).bind
  intro result
  split <;> exact always_pure _

theorem deleteBranch_justified (force : Bool) :
    Always (deleteBranch setup branch force : Act ω Progress)
      (Justified setup branch adding) := by
  unfold deleteBranch
  apply (Repository.deleteBranch_justified force).bind
  intro result
  split <;> exact always_pure _

theorem tearDown_justified (force window : Bool) (worktree : Option Worktree.Entry)
    (found : Bool) :
    Always (tearDown setup (setup.workspace branch) force window worktree found : Act ω Progress)
      (Justified setup branch adding) := by
  rw [tearDown_eq]
  refine Always.bind ?_ fun first => Always.bind ?_ fun second => Always.bind ?_
    fun _ => always_pure _
  · split
    · exact destroyWindow_justified
    · exact always_pure _
  · split
    · exact removeWorktree_justified _ force
    · exact always_pure _
  · split
    · exact deleteBranch_justified force
    · exact always_pure _

theorem lookUp_harmless (name : String) :
    Only (lookUp setup name : Worktree.Result ω _).run fun c => ¬ c.Destructive := by
  refine (lookUp_within ?_ ?_).only
  · exact Repository.mild_of_words (by simp) (by simp) (by simp)
  · exact Repository.mild_of_words (by simp) (by simp) (by simp)

theorem removeLocked_justified (force : Bool) :
    Always (removeLocked setup (setup.workspace branch) force : Act ω (Outcome RemoveState))
      (Justified setup branch adding) := by
  unfold removeLocked
  apply (Add.harmless_justified (lookUp_harmless _)).bind
  intro seen
  cases seen with
  | error e => exact always_pure _
  | ok seen =>
    obtain ⟨entry, found⟩ := seen
    dsimp only
    split
    · exact always_pure _
    apply (Add.mild_justified (Multiplexer.windowExists_mild _)).bind
    intro answer
    cases answer
    all_goals
      apply (always_pure _).bind
      intro seen
      split
      · exact always_pure _
      · exact (tearDown_justified force _ entry found).bind fun progress => always_pure _

end Remove

theorem remove_justified (force : Bool) :
    Always (remove setup branch force : Act ω (Outcome RemoveState))
      (Justified setup branch adding) :=
  (Remove.removeLocked_justified force).locked _

/-- What holds of all that destroying the window does holds of all that closing does. -/
theorem close_always {holds : List Event → Prop} [Composable holds]
    (destroys : Always (setup.mux.destroyWindow (setup.workspace branch).windowName :
      Mux.Result ω Unit).run holds) :
    Always (close setup branch : ExceptT Error (Act ω) Unit).run holds := by
  have locked : Always (closeLocked setup branch : ExceptT Error (Act ω) Unit).run holds := by
    unfold closeLocked
    apply destroys.lift.andThen
    intro result
    split
    · exact always_ok _
    · exact always_error _
    · exact always_error _
  unfold close
  apply (always_acquire _ _).lift.andThen
  intro guard?
  cases guard? with
  | error e => exact always_error _
  | ok guard =>
    apply locked.lift.andThen
    intro result
    apply (always_release guard).lift.andThen
    intro _
    exact always_pure result

theorem close_justified :
    Always (close setup branch : ExceptT Error (Act ω) Unit).run
      (Justified setup branch adding) :=
  close_always Multiplexer.destroyWindow_justified

theorem list_harmless :
    Only (list setup : Worktree.Result ω _).run fun c => ¬ c.Destructive := by
  have names : Only (setup.mux.listWindows : Mux.Result ω _).run fun c => ¬ c.Destructive :=
    (Multiplexer.listWindows_mild.imp fun _ mild => mild.2).only
  have listing : Only (setup.repository.list : Worktree.Result ω _).run
      fun c => ¬ c.Destructive :=
    (Repository.list_within
      (Repository.mild_of_words (by decide) (by decide) (by decide))).only
  unfold list
  apply names.lift.andThen
  intro result
  cases result
  all_goals
    apply (always_ok _).andThen
    intro windows
    exact listing.andThen fun entries => always_ok _

/-- A call of an operation on a branch. -/
inductive Call where
  | add (config : Config)
  | remove (force : Bool)
  | close
  | list

/-- Does what the call asks for, whatever comes of it. -/
def Call.act (setup : Setup) (branch : String) : Call → Act ω Unit
  | .add config => do let _ ← Lifecycle.add setup branch config
  | .remove force => do let _ ← Lifecycle.remove setup branch force
  | .close => do let _ ← (Lifecycle.close setup branch).run
  | .list => do let _ ← (Lifecycle.list setup).run

theorem Call.justified (call : Call) :
    Always (call.act setup branch : Act ω Unit)
      (Justified setup branch (∃ config, call = .add config)) := by
  cases call with
  | add config => exact (add_justified ⟨config, rfl⟩ config).bind fun _ => always_pure ()
  | remove force => exact (remove_justified force).bind fun _ => always_pure ()
  | close => exact close_justified.bind fun _ => always_pure ()
  | list => exact (Add.harmless_justified list_harmless).bind fun _ => always_pure ()

theorem close_no_git : Only (close setup branch : ExceptT Error (Act ω) Unit).run
    fun c => c.program ≠ "git" := by
  apply close_always
  apply (Multiplexer.destroyWindow_own _).only.imp
  intro c own git
  exact setup.mux.kind.name_ne_git (own.symm.trans git)

/-- **Operations stay within their branch.** Whatever the outside answers, every destructive command
of a call is warranted by the replies before it in the same call; a call to close runs no git
command, and a call to list runs no destructive one. -/
theorem Call.stays_within_branch (setup : Setup) (branch : String) (call : Call) (host : Host ω)
    (s : Session ω) :
    ∃ events, ((call.act setup branch).perform host s).2.journal = events ++ s.journal ∧
      Justified setup branch (∃ config, call = .add config) events ∧
      (call = .close → RunsOnly (fun c => c.program ≠ "git") events) ∧
      (call = .list → RunsOnly (fun c => ¬ c.Destructive) events) := by
  have mild : call = .list → Only (call.act setup branch : Act ω Unit)
      fun c => ¬ c.Destructive := by
    intro lists
    subst lists
    exact list_harmless.bind fun _ => always_pure ()
  have outward : call = .close → Only (call.act setup branch : Act ω Unit)
      fun c => c.program ≠ "git" := by
    intro closes
    subst closes
    exact close_no_git.bind fun _ => always_pure ()
  obtain ⟨events, journal, justified⟩ := call.justified host s
  refine ⟨events, journal, justified, fun closes => ?_, fun lists => ?_⟩
  · exact (outward closes).of_journal journal
  · exact (mild lists).of_journal journal

end Lifecycle

end Worktop

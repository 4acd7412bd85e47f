import Mathlib.Data.List.Forall2
import Worktop.Proofs.Asking
import Worktop.Proofs.Bracket

/-! # What force changes

A removal by force differs from one without in a flag of the commands that remove a worktree and
delete a branch (`Worktop.Command.Forced`), and in nothing else. Two acts of which one does with
force what the other does without are compared step by step (`Worktop.Act.Forced`), against a host
whose answers do not heed the flag. Main statement: a removal by force and one without, from the
same state and against the same answers, run the same commands but for the flags, and tell the same.
-/

namespace Worktop

open Act

variable {ω α β ε : Type}

/-! ## Commands -/

namespace Command

/-- A command to remove a worktree or to deal with branches, which may be forced. -/
def Forceable (c : Command) : Prop :=
  c.program = "git" ∧ (c.words.take 2 = ["worktree", "remove"] ∨ c.words.head? = some "branch")

/-- The second command is the first one done with force. All but those that may be forced are the
same. -/
inductive Forced : Command → Command → Prop
  | worktree (directory path : String) :
    Forced (Worktree.git directory ["worktree", "remove", path])
      (Worktree.git directory ["worktree", "remove", "--force", path])
  | branch (directory name : String) :
    Forced (Worktree.git directory ["branch", "-d", name])
      (Worktree.git directory ["branch", "-D", name])
  | other {c : Command} (free : ¬ c.Forceable) : Forced c c

theorem Forced.program {plain forced : Command} (same : Forced plain forced) :
    forced.program = plain.program := by
  cases same <;> rfl

end Command

/-- The answers do not heed whether a command is forced. -/
def Host.Heedless (host : Host ω) : Prop :=
  ∀ plain forced, Command.Forced plain forced → host.answer forced = host.answer plain

theorem Script.heedless : Script.host.Heedless := fun _ _ _ => rfl

/-! ## Acts -/

namespace Act

/-- Whatever was done before, two acts give the same and leave the same, but that the commands of
the second are those of the first done with force. -/
def Forced (plain forced : Act ω α) : Prop :=
  ∀ host : Host ω, host.Heedless → ∀ (s : Session ω) (journal : List Event),
    ∃ a after journal' asked asked', plain.perform host s = (a, after) ∧
      forced.perform host { s with journal } = (a, { after with journal := journal' }) ∧
      after.commands = s.commands ++ asked ∧
      { after with journal := journal' : Session ω }.commands =
        { s with journal : Session ω }.commands ++ asked' ∧
      List.Forall₂ Command.Forced asked asked'

/-- An act that runs no command is the same with force. -/
theorem forced_silent {act : Act ω α}
    (silent : ∀ (host : Host ω) (s : Session ω) (journal : List Event), ∃ a after journal',
      act.perform host s = (a, after) ∧
      act.perform host { s with journal } = (a, { after with journal := journal' }) ∧
      after.commands = s.commands ∧ { after with journal := journal' : Session ω }.commands =
        { s with journal : Session ω }.commands) : Forced act act := by
  intro host _ s journal
  obtain ⟨a, after, journal', plain, forced, ran, ran'⟩ := silent host s journal
  refine ⟨a, after, journal', [], [], plain, forced, ?_, ?_, .nil⟩
  · rw [ran, List.append_nil]
  · rw [ran', List.append_nil]

theorem forced_pure (a : α) : Forced (pure a : Act ω α) (pure a) :=
  forced_silent fun _ _ journal => ⟨a, _, journal, rfl, rfl, rfl, rfl⟩

theorem forced_acquire (table : LockTable) (branch : String) :
    Forced (acquire table branch : Act ω (Except LockError Guard)) (acquire table branch) := by
  apply forced_silent
  intro host s journal
  cases asked : s.locks.acquire s.files table branch with
  | mk answer rest =>
  obtain ⟨locks, files⟩ := rest
  cases answer with
  | error e =>
    exact ⟨_, _, .refused e :: journal, perform_acquire_error asked, perform_acquire_error asked,
      rfl, rfl⟩
  | ok guard =>
    exact ⟨_, _, .locked guard :: journal, perform_acquire asked, perform_acquire asked, rfl, rfl⟩

theorem forced_release (guard : Guard) : Forced (release guard : Act ω Unit) (release guard) :=
  forced_silent fun _ _ journal => ⟨_, _, .released guard :: journal, rfl, rfl, rfl, rfl⟩

theorem forced_exec {plain forced : Command} (same : plain.Forced forced) :
    Forced (exec plain : Act ω Reply) (exec forced) := by
  intro host heedless s journal
  cases answered : host.answer plain s.outside s.files with
  | mk answer rest =>
  obtain ⟨outside, files⟩ := rest
  have answered' : host.answer forced s.outside s.files = (answer, outside, files) := by
    rw [heedless plain forced same, answered]
  have performed' := @perform_exec ω host { s with journal } forced answer outside files answered'
  rw [same.program] at performed'
  exact ⟨_, _, _, [plain], [forced], perform_exec answered, performed',
    Session.commands_ran _ plain _, Session.commands_ran _ forced _, .cons same .nil⟩

theorem Forced.bind {x y : Act ω α} {f g : α → Act ω β} (before : x.Forced y)
    (after : ∀ a, (f a).Forced (g a)) : Act.Forced (x >>= f) (y >>= g) := by
  intro host heedless s journal
  obtain ⟨a, s1, journal1, asked, asked', plain, forced, ran, ran', same⟩ :=
    before host heedless s journal
  obtain ⟨b, s2, journal2, more, more', plain', forced', ran2, ran2', same'⟩ :=
    after a host heedless s1 journal1
  refine ⟨b, s2, journal2, asked ++ more, asked' ++ more', ?_, ?_, ?_, ?_, ?_⟩
  · rw [perform_bind plain, plain']
  · rw [perform_bind forced, forced']
  · rw [ran2, ran, List.append_assoc]
  · rw [ran2', ran', List.append_assoc]
  · exact List.rel_append same same'

theorem Within.forced {act : Act ω α} (within : act.Within fun c => ¬ c.Forceable) :
    Forced act act := by
  induction within with
  | pure a => exact forced_pure a
  | bind before after first second => exact first.bind second
  | exec allows => exact forced_exec (.other allows)
  | pathExists path | makeDirectories path | pause duration =>
    exact forced_silent fun _ _ journal => ⟨_, _, _ :: journal, rfl, rfl, rfl, rfl⟩
  | now => exact forced_silent fun _ _ journal => ⟨_, _, journal, rfl, rfl, rfl, rfl⟩

theorem forced_ite {chosen : Prop} [Decidable chosen] {first first' second second' : Act ω α}
    (yes : first.Forced first') (no : second.Forced second') :
    Forced (if chosen then first else second) (if chosen then first' else second') := by
  split
  · exact yes
  · exact no

/-! ## Acts that may fail -/

theorem forced_ok (a : α) : Forced (pure a : ExceptT ε (Act ω) α).run
    (pure a : ExceptT ε (Act ω) α).run :=
  forced_pure (α := Except ε α) _

theorem forced_error (e : ε) : Forced (throw e : ExceptT ε (Act ω) α).run
    (throw e : ExceptT ε (Act ω) α).run :=
  forced_pure (α := Except ε α) _

theorem Forced.lift {x y : Act ω α} (same : x.Forced y) :
    Forced (ExceptT.lift x : ExceptT ε (Act ω) α).run (ExceptT.lift y).run := by
  rw [ExceptT.run_lift, ExceptT.run_lift, map_eq_pure_bind, map_eq_pure_bind]
  exact same.bind fun a => forced_pure _

theorem Forced.andThen {x y : ExceptT ε (Act ω) α} {f g : α → ExceptT ε (Act ω) β}
    (before : Forced x.run y.run) (after : ∀ a, Forced (f a).run (g a).run) :
    Forced (x >>= f).run (y >>= g).run := by
  rw [ExceptT.run_bind, ExceptT.run_bind]
  apply before.bind
  intro result
  cases result with
  | ok a => exact after a
  | error e => exact forced_pure _

end Act

/-! ## Removing worktrees and branches -/

namespace Repository

variable {r : Repository}

theorem free_of_words {directory : String} {args : List String}
    (remains : args.take 2 ≠ ["worktree", "remove"]) (kept : args.head? ≠ some "branch") :
    ¬ (Worktree.git directory args).Forceable := by
  simp [Command.Forceable, remains, kept]

theorem exec_forced {plain forced : Command} (same : plain.Forced forced) :
    Forced (Worktree.exec plain : Worktree.Result ω Output).run (Worktree.exec forced).run := by
  unfold Worktree.exec
  apply (forced_exec same).lift.andThen
  intro reply
  cases reply with
  | ok output => exact forced_ok _
  | error e => exact forced_error _

theorem branchExists_forced (branch : String) :
    Forced (r.branchExists branch : Worktree.Result ω Bool).run (r.branchExists branch).run :=
  (branchExists_within (free_of_words (by simp) (by simp))).forced

theorem remove_forced (branch : String) :
    Forced (r.remove branch false : Worktree.Result ω Unit).run (r.remove branch true).run := by
  unfold remove
  apply (findWorktree_within branch (free_of_words (by simp) (by simp))).forced.andThen
  intro entry?
  cases entry? with
  | none => exact forced_error _
  | some entry =>
    dsimp only
    split
    · exact forced_error _
    apply (Within.pathExists entry.path).forced.lift.andThen
    intro there
    apply forced_ite
    · apply (exec_forced (.worktree r.root entry.path)).andThen
      intro output
      exact forced_ite (forced_error _) (forced_ok _)
    · exact (prune_within (free_of_words (by simp) (by simp))).forced

theorem deleteBranch_forced (branch : String) :
    Forced (r.deleteBranch branch false : Worktree.Result ω Unit).run
      (r.deleteBranch branch true).run := by
  unfold deleteBranch
  apply (branchExists_forced branch).andThen
  intro found
  apply forced_ite
  · exact forced_error _
  apply (exec_forced (.branch r.root branch)).andThen
  intro output
  exact forced_ite (forced_ite (forced_error _) (forced_error _)) (forced_ok _)

end Repository

/-! ## Removing workspaces -/

theorem Multiplexer.free_of_own {m : Multiplexer} {c : Command} (own : c.program = m.kind.name) :
    ¬ c.Forceable :=
  fun forceable => m.kind.name_ne_git (own.symm.trans forceable.1)

namespace Lifecycle

variable {setup : Setup} {workspace : Workspace}

namespace Remove

theorem destroyWindow_forced (name : String) :
    Act.Forced (destroyWindow setup name : Act ω Progress) (destroyWindow setup name) := by
  unfold destroyWindow
  apply ((Multiplexer.destroyWindow_own name).imp fun _ => Multiplexer.free_of_own).forced.bind
  intro result
  split <;> exact forced_pure _

theorem removeWorktree_forced (branch path : String) :
    Act.Forced (removeWorktree setup branch path false : Act ω Progress)
      (removeWorktree setup branch path true) := by
  unfold removeWorktree
  apply (Repository.remove_forced branch).bind
  intro result
  split <;> exact forced_pure _

theorem deleteBranch_forced (branch : String) :
    Act.Forced (deleteBranch setup branch false : Act ω Progress)
      (deleteBranch setup branch true) := by
  unfold deleteBranch
  apply (Repository.deleteBranch_forced branch).bind
  intro result
  split <;> exact forced_pure _

theorem tearDown_forced (window : Bool) (worktree : Option Worktree.Entry) (found : Bool) :
    Act.Forced (tearDown setup workspace false window worktree found : Act ω Progress)
      (tearDown setup workspace true window worktree found) := by
  rw [tearDown_eq, tearDown_eq]
  refine Forced.bind ?_ fun first => Forced.bind ?_ fun second => Forced.bind ?_
    fun third => forced_pure _
  · exact forced_ite (destroyWindow_forced _) (forced_pure _)
  · cases worktree with
    | some entry => exact removeWorktree_forced _ _
    | none => exact forced_pure _
  · exact forced_ite (deleteBranch_forced _) (forced_pure _)

theorem removeLocked_forced :
    Act.Forced (removeLocked setup workspace false : Act ω (Outcome RemoveState))
      (removeLocked setup workspace true) := by
  unfold removeLocked
  apply (lookUp_within (Repository.free_of_words (by simp) (by simp))
    (Repository.free_of_words (by simp) (by simp))).forced.bind
  intro seen
  cases seen with
  | error e => exact forced_pure _
  | ok seen =>
    obtain ⟨entry, found⟩ := seen
    apply forced_ite (forced_pure _)
    have asks : Within (fun c => ¬ c.Forceable)
        (setup.mux.windowExists workspace.windowName : Mux.Result ω Bool).run :=
      (Multiplexer.windowExists_mild _).imp fun _ mild => Multiplexer.free_of_own mild.1
    apply asks.forced.bind
    intro answer
    cases answer
    all_goals
      apply (forced_pure _).bind
      intro seen
      exact forced_ite (forced_pure _)
        ((tearDown_forced _ entry found).bind fun progress => forced_pure _)

end Remove

theorem remove_forced (setup : Setup) (branch : String) :
    Act.Forced (remove setup branch false : Act ω (Outcome RemoveState))
      (remove setup branch true) := by
  unfold remove
  apply (forced_acquire setup.lockTable branch).bind
  intro guard?
  cases guard? with
  | error e => exact forced_pure _
  | ok guard =>
    apply Remove.removeLocked_forced.bind
    intro outcome
    exact (forced_release guard).bind fun _ => forced_pure _

/-- **Force changes flags only.** From the same state and against the same answers, a removal by
force and one without tell the same, and leave the same files and locks. They run as many commands,
the same one at each place, but that by force every removal of a worktree has `--force` before its
path and every deletion of a branch has `-D` for `-d`. -/
theorem force_changes_flags_only (setup : Setup) (branch : String) (s : Session Script) :
    let plain := (remove setup branch false).perform Script.host s
    let forced := (remove setup branch true).perform Script.host s
    forced.1 = plain.1 ∧ (∃ journal, forced.2 = { plain.2 with journal }) ∧
      ∃ asked asked', plain.2.commands = s.commands ++ asked ∧
        forced.2.commands = s.commands ++ asked' ∧ List.Forall₂ Command.Forced asked asked' := by
  intro plain forced
  have runs := remove_forced setup branch Script.host Script.heedless s s.journal
  obtain ⟨o, after, journal, asked, asked', plainly, byForce, ran, ran', flags⟩ := runs
  have plainly : plain = (o, after) := plainly
  have byForce : forced = (o, { after with journal }) := byForce
  rw [plainly, byForce]
  exact ⟨rfl, ⟨journal, rfl⟩, asked, asked', ran, ran', flags⟩

end Lifecycle

end Worktop

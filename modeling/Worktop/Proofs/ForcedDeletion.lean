import Worktop.Proofs.BlastRadius
import Worktop.Proofs.Perform
import Worktop.Proofs.Roles
import Worktop.Rehearsal

/-! # Forced deletions of an addition

An addition that fails deletes its branch by force if git may have made it. That it may have is told
from a second look for the branch, also where the addition ended before it asked git for anything
(`Worktop.Repository.CutShort`). Exactly then a branch is deleted that the addition never tried to
create (`Worktop.Lifecycle.add_deletes_only_tried_iff`): someone else made it in between.
-/

namespace Worktop

open Act

variable {ω : Type} {setup : Setup} {branch : String} {r : Repository}

namespace Command

/-- Deletes a branch, whatever commits are lost. -/
def DeletesByForce (branch : String) (c : Command) : Prop :=
  c.program = "git" ∧ c.words = ["branch", "-D", branch]

/-- Tries to create a branch, with a worktree for it. -/
def CreatesBranch (branch : String) (c : Command) : Prop :=
  c.program = "git" ∧ c.words.take 4 = ["worktree", "add", "-b", branch]

instance (branch : String) (c : Command) : Decidable (c.DeletesByForce branch) :=
  inferInstanceAs (Decidable (_ ∧ _))

instance (branch : String) (c : Command) : Decidable (c.CreatesBranch branch) :=
  inferInstanceAs (Decidable (_ ∧ _))

end Command

/-- Some command tried to create the branch. -/
def Tried (branch : String) (events : List Event) : Prop :=
  ∃ command reply, .ran command reply ∈ events ∧ command.CreatesBranch branch

/-- Every forced deletion of the branch, among events, latest first, comes after an attempt to
create it. -/
def DeletesOnlyTried (branch : String) (events : List Event) : Prop :=
  ∀ newer command reply older, events = newer ++ .ran command reply :: older →
    command.DeletesByForce branch → Tried branch older

/-- No forced deletion of the branch at all. -/
abbrev Spares (branch : String) (events : List Event) : Prop :=
  RunsOnly (fun c => ¬ c.DeletesByForce branch) events

theorem tried_cons {command : Command} {reply : Reply} {older : List Event} :
    Tried branch (.ran command reply :: older) ↔
      command.CreatesBranch branch ∨ Tried branch older := by
  constructor
  · intro tried
    obtain ⟨command', reply', member, creates⟩ := tried
    rcases List.mem_cons.mp member with same | before
    · cases same
      exact .inl creates
    · exact .inr ⟨command', reply', before, creates⟩
  · intro tried
    rcases tried with creates | ⟨command', reply', before, creates⟩
    · exact ⟨command, reply, List.mem_cons_self, creates⟩
    · exact ⟨command', reply', List.mem_cons_of_mem _ before, creates⟩

theorem tried_cons_of_silent {event : Event} {older : List Event}
    (silent : ∀ command reply, event ≠ .ran command reply) :
    Tried branch (event :: older) ↔ Tried branch older := by
  constructor
  · intro tried
    obtain ⟨command, reply, member, creates⟩ := tried
    rcases List.mem_cons.mp member with same | before
    · exact (silent command reply same.symm).elim
    · exact ⟨command, reply, before, creates⟩
  · intro tried
    obtain ⟨command, reply, before, creates⟩ := tried
    exact ⟨command, reply, List.mem_cons_of_mem _ before, creates⟩

instance decidableTried (branch : String) : (events : List Event) → Decidable (Tried branch events)
  | [] => .isFalse fun ⟨_, _, member, _⟩ => List.not_mem_nil member
  | .ran _ _ :: older =>
    have := decidableTried branch older
    decidable_of_iff _ tried_cons.symm
  | .looked .. :: older | .read .. :: older | .madeDirectories .. :: older | .locked _ :: older
  | .refused _ :: older | .released _ :: older | .paused _ :: older =>
    have := decidableTried branch older
    decidable_of_iff _ (tried_cons_of_silent (by simp)).symm

theorem deletesOnlyTried_cons {command : Command} {reply : Reply} {older : List Event} :
    DeletesOnlyTried branch (.ran command reply :: older) ↔
      (command.DeletesByForce branch → Tried branch older) ∧ DeletesOnlyTried branch older := by
  constructor
  · intro whole
    refine ⟨whole [] command reply older rfl, fun newer command' reply' older' same => ?_⟩
    exact whole (_ :: newer) command' reply' older' (by rw [same]; rfl)
  · intro ⟨first, rest⟩ newer command' reply' older' same
    cases newer with
    | nil =>
      cases same
      exact first
    | cons _ newer => exact rest newer command' reply' older' (List.cons.inj same).2

theorem deletesOnlyTried_cons_of_silent {event : Event} {older : List Event}
    (silent : ∀ command reply, event ≠ .ran command reply) :
    DeletesOnlyTried branch (event :: older) ↔ DeletesOnlyTried branch older := by
  constructor
  · intro whole newer command reply older same
    exact whole (event :: newer) command reply older (by rw [same]; rfl)
  · intro rest newer command reply older same
    cases newer with
    | nil => exact (silent command reply (List.cons.inj same).1).elim
    | cons _ newer => exact rest newer command reply older (List.cons.inj same).2

instance decidableDeletesOnlyTried (branch : String) :
    (events : List Event) → Decidable (DeletesOnlyTried branch events)
  | [] => .isTrue fun newer _ _ _ same =>
    (List.append_ne_nil_of_right_ne_nil newer (List.cons_ne_nil _ _) same.symm).elim
  | .ran _ _ :: older =>
    have := decidableDeletesOnlyTried branch older
    decidable_of_iff _ deletesOnlyTried_cons.symm
  | .looked .. :: older | .read .. :: older | .madeDirectories .. :: older | .locked _ :: older
  | .refused _ :: older | .released _ :: older | .paused _ :: older =>
    have := decidableDeletesOnlyTried branch older
    decidable_of_iff _ (deletesOnlyTried_cons_of_silent (by simp)).symm

theorem Tried.append_left {old : List Event} (tried : Tried branch old) (new : List Event) :
    Tried branch (new ++ old) := by
  obtain ⟨command, reply, member, creates⟩ := tried
  exact ⟨command, reply, List.mem_append_right new member, creates⟩

theorem deletesOnlyTried_of_spares {events : List Event} (spares : Spares branch events) :
    DeletesOnlyTried branch events := by
  intro newer command reply older same deletes
  have member : .ran command reply ∈ events := same ▸ List.mem_append_right newer List.mem_cons_self
  exact (spares command reply member deletes).elim

/-- An event among two groups is among the earlier ones, or all of these come before it. -/
theorem split_append {new old newer older : List Event} {event : Event}
    (same : new ++ old = newer ++ event :: older) :
    event ∈ old ∨ ∃ middle, new = newer ++ event :: middle ∧ older = middle ++ old := by
  rcases List.append_eq_append_iff.mp same.symm with ⟨middle, shape, rest⟩ | ⟨middle, -, rest⟩
  · cases middle with
    | nil =>
      rw [List.nil_append] at rest
      exact .inl (rest ▸ List.mem_cons_self)
    | cons first middle =>
      obtain ⟨rfl, rfl⟩ := List.cons.inj rest
      exact .inr ⟨middle, shape, rfl⟩
  · exact .inl (rest ▸ List.mem_append_right middle List.mem_cons_self)

/-- After an attempt to create the branch, and no deletion before it, any deletion is in order. -/
theorem deletesOnlyTried_of_tried {old : List Event} (tried : Tried branch old)
    (spares : Spares branch old) (new : List Event) : DeletesOnlyTried branch (new ++ old) := by
  intro newer command reply older same deletes
  rcases split_append same with member | ⟨middle, -, rfl⟩
  · exact (spares command reply member deletes).elim
  · exact tried.append_left middle

/-- What neither deletes the branch nor tries to create it does not count. -/
theorem deletesOnlyTried_append_iff {new old : List Event}
    (harmless : RunsOnly (fun c => ¬ c.DeletesByForce branch ∧ ¬ c.CreatesBranch branch) old) :
    DeletesOnlyTried branch (new ++ old) ↔ DeletesOnlyTried branch new := by
  constructor
  · intro whole newer command reply older same deletes
    obtain ⟨command', reply', member, creates⟩ :=
      whole newer command reply (older ++ old) (by rw [same, List.append_assoc]; rfl) deletes
    rcases List.mem_append.mp member with inOlder | inOld
    · exact ⟨command', reply', inOlder, creates⟩
    · exact ((harmless command' reply' inOld).2 creates).elim
  · intro first newer command reply older same deletes
    rcases split_append same with member | ⟨middle, shape, rfl⟩
    · exact ((harmless command reply member).1 deletes).elim
    · obtain ⟨command', reply', member, creates⟩ := first newer command reply middle shape deletes
      exact ⟨command', reply', List.mem_append_left old member, creates⟩

/-! ## Making the worktree -/

namespace Repository

/-- What the making of a worktree leaves, latest first, where it ends before git is asked for one
and no branch was seen: git could not be started, the path is taken, or its directory cannot be
made. -/
inductive CutShort (r : Repository) (branch : String) : List Event → Prop
  | unasked (e : SpawnError) : CutShort r branch [.ran (r.showRef branch) (.error e)]
  | taken (seen : Output) (absent : seen.success = false) (listing : Reply) :
      CutShort r branch [.ran (r.git ["worktree", "list", "--porcelain"]) listing,
        .looked (r.worktreePath branch) true, .ran (r.showRef branch) (.ok seen)]
  | noBase (seen : Output) (absent : seen.success = false) :
      CutShort r branch [.madeDirectories r.base false,
        .looked (r.worktreePath branch) false, .ran (r.showRef branch) (.ok seen)]

/-- Queries of git neither create a branch nor delete one. -/
theorem showRef_harmless : ¬ (r.showRef branch).DeletesByForce branch ∧
    ¬ (r.showRef branch).CreatesBranch branch := by
  simp [Command.DeletesByForce, Command.CreatesBranch, showRef, git]

theorem list_harmless : ¬ (r.git ["worktree", "list", "--porcelain"]).DeletesByForce branch ∧
    ¬ (r.git ["worktree", "list", "--porcelain"]).CreatesBranch branch := by
  simp [Command.DeletesByForce, Command.CreatesBranch, git]

theorem CutShort.harmless {events : List Event} (cut : CutShort r branch events) :
    RunsOnly (fun c => ¬ c.DeletesByForce branch ∧ ¬ c.CreatesBranch branch) events := by
  intro command reply member
  cases cut with
  | unasked e =>
    cases List.mem_singleton.mp member
    exact showRef_harmless
  | taken seen absent listing =>
    simp only [List.mem_cons, Event.ran.injEq, reduceCtorEq, List.not_mem_nil, or_false,
      false_or] at member
    rcases member with ⟨rfl, -⟩ | ⟨rfl, -⟩
    · exact list_harmless
    · exact showRef_harmless
  | noBase seen absent =>
    simp only [List.mem_cons, Event.ran.injEq, reduceCtorEq, List.not_mem_nil, or_false,
      false_or] at member
    obtain ⟨rfl, -⟩ := member
    exact showRef_harmless

/-- Where the branch is seen, that is the end of it. -/
theorem not_cutShort_of_shown (seen : Output) :
    ¬ CutShort r branch [.ran (r.showRef branch) (.ok seen)] := by
  generalize same : [Event.ran (r.showRef branch) (.ok seen)] = events
  intro cut
  cases cut with
  | unasked e => simp at same
  | taken seen absent listing => simp at same
  | noBase seen absent => simp at same

theorem CutShort.untried {events : List Event} (cut : CutShort r branch events) :
    ¬ Tried branch events := by
  intro tried
  obtain ⟨command, reply, member, creates⟩ := tried
  exact (cut.harmless command reply member).2 creates

/-- The making of a worktree asks git for one, or finds the branch there, or is cut short. -/
theorem create_emits :
    Emits (r.create branch : Worktree.Result ω String).run fun events result =>
      (∃ reply earlier, events =
          .ran (r.git ["worktree", "add", "-b", branch, r.worktreePath branch]) reply :: earlier ∧
        RunsOnly (fun c => ¬ c.DeletesByForce branch ∧ ¬ c.CreatesBranch branch) earlier ∧
        (result.isOk ↔ reply.Succeeded)) ∨
      (∃ seen, events = [.ran (r.showRef branch) (.ok seen)] ∧
        result = .error (.branchExists branch)) ∨
      (CutShort r branch events ∧ ∃ e, result = .error e ∧ ∀ name, e ≠ .branchExists name) := by
  intro host s
  have course := r.create_course branch host s
  generalize (r.create branch : Worktree.Result ω String).run.perform host s = made at course
  cases course with
  | @unasked e shown =>
    exact ⟨_, journal_queried shown, .inr (.inr ⟨.unasked e, _, rfl, nofun⟩)⟩
  | @shown seen shown success =>
    exact ⟨_, journal_queried shown, .inr (.inl ⟨seen, rfl, rfl⟩)⟩
  | @taken seen shown absent there =>
    refine ⟨_, congrArg _ (journal_looked shown there), .inr (.inr ⟨.taken seen absent _, ?_⟩)⟩
    obtain ⟨e, told⟩ := r.conflictOf_error branch _
    exact ⟨e, told, fun name same => conflictOf_ne_branchExists _ name (same ▸ told)⟩
  | @noBase seen e shown absent free failed =>
    exact ⟨_, journal_based shown free failed, .inr (.inr ⟨.noBase seen absent, _, rfl, nofun⟩)⟩
  | @asked seen shown absent free ready =>
    refine ⟨[_, _, _, _], congrArg (List.cons _) (journal_based shown free ready),
      .inl ⟨_, _, rfl, ?_, addedOf_isOk_iff⟩⟩
    intro command reply member
    simp only [List.mem_cons, Event.ran.injEq, reduceCtorEq, List.not_mem_nil, or_false,
      false_or] at member
    obtain ⟨rfl, -⟩ := member
    exact showRef_harmless

end Repository

namespace Lifecycle.Add

/-- The making of the worktree was cut short, and a second look finds the branch all the same: it is
taken for the addition's own. -/
def Mistakes (setup : Setup) (branch : String) (host : Host ω) (s after : Session ω) : Prop :=
  ∃ e cut made, (setup.repository.create branch).run.perform host s = (.error e, made) ∧
    made.journal = cut ++ s.journal ∧ Repository.CutShort setup.repository branch cut ∧
    (setup.repository.branchExists branch).run.perform host made = (.ok true, after)

theorem Mistakes.unique {host : Host ω} {s first second : Session ω}
    (one : Mistakes setup branch host s first) (other : Mistakes setup branch host s second) :
    first = second := by
  obtain ⟨e, cut, made, created, -, -, look⟩ := one
  obtain ⟨e', cut', made', created', -, -, look'⟩ := other
  obtain ⟨-, rfl⟩ := Prod.mk.inj (created.symm.trans created')
  exact (Prod.mk.inj (look.symm.trans look')).2

/-- A mistake is only made where the making of the worktree was cut short. -/
theorem Mistakes.cutShort {host : Host ω} {s s1 after : Session ω}
    {result : Except Worktree.Error String} {events : List Event}
    (mistakes : Mistakes setup branch host s after)
    (made : (setup.repository.create branch).run.perform host s = (result, s1))
    (journal : s1.journal = events ++ s.journal) :
    Repository.CutShort setup.repository branch events := by
  obtain ⟨e, cut, s1', made', journal', short, -⟩ := mistakes
  obtain ⟨-, rfl⟩ := Prod.mk.inj (made.symm.trans made')
  rwa [List.append_cancel_right (journal.symm.trans journal')]

theorem attempt_of_add (r : Repository) (path : String) (reply : Reply) {earlier : List Event}
    (spares : Spares branch earlier) :
    let events := .ran (r.git ["worktree", "add", "-b", branch, path]) reply :: earlier
    Tried branch events ∧ Spares branch events := by
  refine ⟨⟨_, reply, List.mem_cons_self, rfl, ?_⟩, ?_⟩
  · simp [Repository.git]
  intro command reply' member
  rcases List.mem_cons.mp member with same | before
  · cases same
    simp [Command.DeletesByForce, Repository.git]
  · exact spares command reply' before

theorem spares_showRef {reply : Reply} {earlier : List Event} (spares : Spares branch earlier) :
    Spares branch (.ran (r.showRef branch) reply :: earlier) := by
  intro command reply' member
  rcases List.mem_cons.mp member with same | before
  · cases same
    exact Repository.showRef_harmless.1
  · exact spares command reply' before

theorem untried_showRef {reply : Reply} {earlier : List Event} (untried : ¬ Tried branch earlier) :
    ¬ Tried branch (.ran (r.showRef branch) reply :: earlier) := by
  intro tried
  rcases tried_cons.mp tried with creates | before
  · exact Repository.showRef_harmless.2 creates
  · exact untried before

/-- What counts as made where the making of the worktree failed. -/
def countedAnyway (branch : String) (e : Worktree.Error) (left : Except Worktree.Error Bool) :
    List Resource :=
  match left, e with
  | .ok true, .branchExists _ => []
  | .ok true, _ => [.branch branch]
  | _, _ => []

theorem countedAnyway_of_shown {e : Worktree.Error} (other : ∀ name, e ≠ .branchExists name) :
    countedAnyway branch e (.ok true) = [.branch branch] := by
  cases e with
  | branchExists name => exact (other name rfl).elim
  | _ => rfl

theorem countedAnyway_of_exists (name : String) (left : Except Worktree.Error Bool) :
    countedAnyway branch (.branchExists name) left = [] := by
  cases left with
  | error _ => rfl
  | ok shown => cases shown <;> rfl

theorem countedAnyway_of_not_shown (e : Worktree.Error) {left : Except Worktree.Error Bool}
    (absent : left ≠ .ok true) : countedAnyway branch e left = [] := by
  cases left with
  | error _ => rfl
  | ok shown =>
    cases shown with
    | false => rfl
    | true => exact (absent rfl).elim

theorem createWorktree_made {host : Host ω} {s s1 : Session ω} {path : String}
    (made : (setup.repository.create branch).run.perform host s = (.ok path, s1)) :
    ((createWorktree setup branch).run.run {}).perform host s =
      ((.ok path, { created := [.branch branch, .worktree branch path] }), s1) := by
  unfold createWorktree
  rw [Adding.perform_lift_bind made]
  rfl

theorem createWorktree_failed {host : Host ω} {s s1 s2 : Session ω} {e : Worktree.Error}
    {left : Except Worktree.Error Bool}
    (made : (setup.repository.create branch).run.perform host s = (.error e, s1))
    (look : (setup.repository.branchExists branch).run.perform host s1 = (left, s2)) :
    ((createWorktree setup branch).run.run {}).perform host s =
      ((.error (failedIn .creatingWorktree (.worktree e)),
        { created := countedAnyway branch e left }), s2) := by
  unfold createWorktree
  rw [Adding.perform_lift_bind made]
  dsimp only
  rw [Adding.perform_lift_bind look]
  cases left with
  | error _ => rfl
  | ok shown =>
    cases shown with
    | false => rfl
    | true => cases e <;> rfl

/-- How the making of the worktree may end: the branch was tried for, or nothing counts as made, or
someone else's branch does. -/
inductive Outset (setup : Setup) (branch : String) (host : Host ω) (s : Session ω) :
    Except Error String → Progress → Session ω → List Event → Prop
  | tried {result progress after events} (attempt : Tried branch events)
      (fair : ∀ other, ¬ Mistakes setup branch host s other) :
      Outset setup branch host s result progress after events
  | nothing {e progress after events} (none : progress.created = [])
      (fair : ∀ other, ¬ Mistakes setup branch host s other) :
      Outset setup branch host s (.error e) progress after events
  | mistaken {e progress after events} (one : progress.created = [.branch branch])
      (untried : ¬ Tried branch events) (mistakes : Mistakes setup branch host s after) :
      Outset setup branch host s (.error e) progress after events

theorem createWorktree_outset (setup : Setup) (branch : String) (host : Host ω) (s : Session ω) :
    ∃ result progress after events,
      ((createWorktree setup branch).run.run {}).perform host s = ((result, progress), after) ∧
      after.journal = events ++ s.journal ∧ Spares branch events ∧
      Outset setup branch host s result progress after events := by
  obtain ⟨old, journal, outcome⟩ :=
    (Repository.create_emits (r := setup.repository) : Act.Emits _ _) host s
  cases made : (setup.repository.create branch).run.perform host s with
  | mk result s1 =>
  rw [made] at journal outcome
  dsimp only at journal outcome
  -- Only where the making was cut short can the second look be misread.
  have cutOff : ∀ other, Mistakes setup branch host s other →
      Repository.CutShort setup.repository branch old :=
    fun other mistakes => mistakes.cutShort made journal
  cases result with
  | ok path =>
    rcases outcome with ⟨reply, earlier, rfl, harmless, -⟩ | ⟨_, -, same⟩ | ⟨-, _, same, -⟩
    · have attempt := attempt_of_add setup.repository
        (setup.repository.worktreePath branch) reply (harmless.imp fun _ => And.left)
      have fair : ∀ other, ¬ Mistakes setup branch host s other :=
        fun other mistakes => (cutOff other mistakes).untried attempt.1
      exact ⟨_, _, _, _, createWorktree_made made, journal, attempt.2, .tried attempt.1 fair⟩
    · cases same
    · cases same
  | error e =>
    cases look : (setup.repository.branchExists branch).run.perform host s1 with
    | mk left s2 =>
    obtain ⟨new, journal2, reply, rfl, told⟩ :=
      (Repository.branchExists_emits (r := setup.repository) branch : Act.Emits _ _) host s1
    rw [look, journal, ← List.append_assoc] at journal2
    rw [look] at told
    refine ⟨_, _, _, _, createWorktree_failed made look, journal2, ?_⟩
    rcases outcome with
      ⟨reply', earlier, rfl, harmless, -⟩ | ⟨seen, rfl, same⟩ | ⟨cut, e', same, other⟩
    · have attempt := attempt_of_add setup.repository
        (setup.repository.worktreePath branch) reply' (harmless.imp fun _ => And.left)
      refine ⟨spares_showRef attempt.2, .tried (attempt.1.append_left _) ?_⟩
      exact fun other mistakes => (cutOff other mistakes).untried attempt.1
    · cases same
      refine ⟨spares_showRef (spares_showRef Composable.nil),
        .nothing (countedAnyway_of_exists branch left) fun other mistakes => ?_⟩
      exact Repository.not_cutShort_of_shown seen (cutOff other mistakes)
    · cases same
      have spares : Spares branch old := fun c reply member => (cut.harmless c reply member).1
      refine ⟨spares_showRef spares, ?_⟩
      by_cases shown : left = .ok true
      · subst shown
        have mistakes : Mistakes setup branch host s s2 :=
          ⟨e, old, s1, made, journal, cut, look⟩
        exact .mistaken (countedAnyway_of_shown other) (untried_showRef cut.untried) mistakes
      · refine .nothing (countedAnyway_of_not_shown e shown) ?_
        intro other' given
        obtain ⟨e', cut', s1', made', -, -, look'⟩ := given
        obtain ⟨-, rfl⟩ := Prod.mk.inj (made.symm.trans made')
        exact shown (Prod.mk.inj (look.symm.trans look')).1

theorem deleteBranch_shown {host : Host ω} {s s1 : Session ω}
    (look : (setup.repository.branchExists branch).run.perform host s = (.ok true, s1)) :
    ∃ reply, ((setup.repository.deleteBranch branch true).run.perform host s).2.journal =
      .ran (setup.repository.git ["branch", "-D", branch]) reply :: s1.journal := by
  obtain ⟨new, journal, reply, rfl, told⟩ :=
    (Worktree.exec_emits (setup.repository.git ["branch", "-D", branch]) : Act.Emits _ _) host s1
  refine ⟨reply, ?_⟩
  unfold Repository.deleteBranch
  rw [perform_bind_ok look]
  dsimp only
  simp only [Bool.not_true, Bool.false_eq_true, ↓reduceIte]
  cases deleted : (Worktree.exec
      (setup.repository.git ["branch", "-D", branch])).run.perform host s1 with
  | mk result s2 =>
  rw [deleted] at journal
  cases result with
  | error e =>
    rw [perform_bind_error deleted]
    exact journal
  | ok output =>
    rw [perform_bind_ok deleted]
    split
    · split <;> exact journal
    · exact journal

theorem deleteBranch_not_shown {host : Host ω} {s s1 : Session ω}
    {left : Except Worktree.Error Bool} (absent : left ≠ .ok true)
    (look : (setup.repository.branchExists branch).run.perform host s = (left, s1)) :
    ((setup.repository.deleteBranch branch true).run.perform host s).2 = s1 := by
  unfold Repository.deleteBranch
  cases left with
  | error e => rw [perform_bind_error look]
  | ok shown =>
    cases shown with
    | true => exact (absent rfl).elim
    | false =>
      rw [perform_bind_ok look]
      rfl

theorem undo_branch (host : Host ω) (s : Session ω) :
    ((undo setup (.branch branch)).run.perform host s).2 =
      ((setup.repository.deleteBranch branch true).run.perform host s).2 := by
  cases deleted : (setup.repository.deleteBranch branch true).run.perform host s with
  | mk result s1 =>
  unfold undo
  rw [perform_lift_bind deleted]
  split <;> rfl

theorem rollBack_single (resource : Resource) (host : Host ω) (s : Session ω) :
    ((rollBack setup [resource]).perform host s).2 =
      ((undo setup resource).run.perform host s).2 := by
  cases undone : (undo setup resource).run.perform host s with
  | mk result s1 =>
  unfold rollBack
  rw [perform_bind undone]
  cases result <;> rfl

theorem build_done {workspace : Workspace} {config : Config} {host : Host ω} {s s1 : Session ω}
    {progress : Progress}
    (done : ((provision setup workspace config).run.run {}).perform host s =
      ((.ok (), progress), s1)) :
    ((build setup workspace config).perform host s).2 = s1 := by
  unfold build
  rw [perform_bind done]
  rfl

theorem build_failed {workspace : Workspace} {config : Config} {host : Host ω} {s s1 : Session ω}
    {progress : Progress} {e : Error}
    (failed : ((provision setup workspace config).run.run {}).perform host s =
      ((.error e, progress), s1)) :
    ((build setup workspace config).perform host s).2 =
      ((rollBack setup (undoOrder progress.created)).perform host s1).2 := by
  unfold build
  rw [perform_bind failed]
  rfl

theorem rollBack_extends {progress : Progress} (own : OwnWork setup branch progress)
    (host : Host ω) (s : Session ω) :
    ∃ new, ((rollBack setup (undoOrder progress.created)).perform host s).2.journal =
      new ++ s.journal := by
  have undoes : Always (rollBack setup (undoOrder progress.created) : Act ω _)
      (Justified setup branch True) := by
    refine rollBack_justified fun resource member => own resource ?_
    exact List.mem_reverse.mp (List.mem_filter.mp member).1
  obtain ⟨new, journal, -⟩ := undoes host s
  exact ⟨new, journal⟩

/-- Whatever comes after the making of the worktree only adds to the journal. -/
theorem build_extends (config : Config) {host : Host ω} {s s1 : Session ω}
    {result : Except Error String} {progress : Progress}
    (made : ((createWorktree setup branch).run.run {}).perform host s = ((result, progress), s1)) :
    ∃ new, ((build setup (setup.workspace branch) config).perform host s).2.journal =
      new ++ s1.journal := by
  have fresh : OwnWork setup branch {} := fun _ member => (List.not_mem_nil member).elim
  obtain ⟨-, -, -, own, same⟩ := @createWorktree_justified ω setup branch True {} fresh host s
  rw [made] at own same
  cases result with
  | error e =>
    have failed : ((provision setup (setup.workspace branch) config).run.run {}).perform host s =
        ((.error e, progress), s1) := Adding.perform_bind_error made
    rw [build_failed failed]
    exact rollBack_extends own host s1
  | ok path =>
    obtain rfl := same path rfl
    obtain ⟨new, journal, -, own'⟩ := equip_justified trivial config progress own host s1
    cases rest : ((equip setup (setup.workspace branch) config
        (setup.workspace branch).worktreePath).run.run progress).perform host s1 with
    | mk outcome s2 =>
    rw [rest] at journal own'
    have whole : ((provision setup (setup.workspace branch) config).run.run {}).perform host s =
        (outcome, s2) := by
      rw [provision_eq]
      exact (Adding.perform_bind_ok made).trans rest
    obtain ⟨verdict, progress'⟩ := outcome
    cases verdict with
    | ok _ =>
      rw [build_done whole]
      exact ⟨new, journal⟩
    | error e =>
      rw [build_failed whole]
      obtain ⟨new', journal'⟩ := rollBack_extends own' host s2
      exact ⟨new' ++ new, by rw [journal', journal, List.append_assoc]⟩

/-- The branch that counts as the addition's own by mistake is still found when it is undone. -/
def FoundTwice (setup : Setup) (branch : String) (host : Host ω) (s : Session ω) : Prop :=
  ∃ after third, Mistakes setup branch host s after ∧
    (setup.repository.branchExists branch).run.perform host after = (.ok true, third)

theorem build_deletes (branch : String) (config : Config) (host : Host ω) (s : Session ω) :
    ∃ events, ((build setup (setup.workspace branch) config).perform host s).2.journal =
        events ++ s.journal ∧
      (DeletesOnlyTried branch events ↔ ¬ FoundTwice setup branch host s) := by
  obtain ⟨result, progress, after, events, made, journal, spares, outset⟩ :=
    createWorktree_outset setup branch host s
  cases outset with
  | tried attempt fair =>
    obtain ⟨new, journal'⟩ := build_extends config made
    refine ⟨new ++ events, by rw [journal', journal, List.append_assoc], ?_⟩
    refine iff_of_true (deletesOnlyTried_of_tried attempt spares new) ?_
    intro caught
    obtain ⟨other, -, mistakes, -⟩ := caught
    exact fair other mistakes
  | @nothing e _ _ _ none fair =>
    have failed : ((provision setup (setup.workspace branch) config).run.run {}).perform host s =
        ((.error e, progress), after) := Adding.perform_bind_error made
    refine ⟨events, ?_, iff_of_true (deletesOnlyTried_of_spares spares) ?_⟩
    · rw [build_failed failed, none]
      exact journal
    · intro caught
      obtain ⟨other, -, mistakes, -⟩ := caught
      exact fair other mistakes
  | @mistaken e _ _ _ one untried mistakes =>
    have failed : ((provision setup (setup.workspace branch) config).run.run {}).perform host s =
        ((.error e, progress), after) := Adding.perform_bind_error made
    have undone : ((build setup (setup.workspace branch) config).perform host s).2 =
        ((setup.repository.deleteBranch branch true).run.perform host after).2 := by
      rw [build_failed failed, one]
      exact (rollBack_single _ host after).trans (undo_branch host after)
    cases look : (setup.repository.branchExists branch).run.perform host after with
    | mk left third =>
    obtain ⟨new, journal', reply, rfl, -⟩ :=
      (Repository.branchExists_emits (r := setup.repository) branch : Act.Emits _ _) host after
    rw [look] at journal'
    have untried' : ¬ Tried branch (.ran (setup.repository.showRef branch) reply :: events) :=
      untried_showRef untried
    by_cases shown : left = .ok true
    · subst shown
      obtain ⟨reply', deleted⟩ := deleteBranch_shown look
      refine ⟨_ :: _ :: events, by rw [undone, deleted, journal', journal]; rfl, ?_⟩
      apply iff_of_false
      · intro only
        exact untried' (only [] _ reply' _ rfl ⟨rfl, Command.words_git _ _⟩)
      · intro fair
        exact fair ⟨after, third, mistakes, look⟩
    · refine ⟨.ran (setup.repository.showRef branch) reply :: events, ?_,
        iff_of_true (deletesOnlyTried_of_spares (spares_showRef spares)) ?_⟩
      · rw [undone, deleteBranch_not_shown shown look, journal', journal]
        rfl
      · intro caught
        obtain ⟨other, third', mistakes', again⟩ := caught
        obtain rfl := mistakes.unique mistakes'
        exact shown (Prod.mk.inj (look.symm.trans again)).1

/-- Nothing that is asked before anything is made counts. -/
theorem validate_harmless (config : Config) :
    Only (validate setup (setup.workspace branch) config : ExceptT Error (Act ω) Unit).run
      fun c => ¬ c.DeletesByForce branch ∧ ¬ c.CreatesBranch branch := by
  refine (validate_within (fun c mild => ?_) ?_ Repository.showRef_harmless).only
  · have other : c.program ≠ "git" := not_git_of_routine (.inr mild)
    exact ⟨fun deletes => other deletes.1, fun creates => other creates.1⟩
  · simp [Command.DeletesByForce, Command.CreatesBranch, Repository.git]

theorem addLocked_deletes (branch : String) (config : Config) (host : Host ω) (s : Session ω) :
    ∃ events, ((addLocked setup (setup.workspace branch) config).perform host s).2.journal =
        events ++ s.journal ∧
      (DeletesOnlyTried branch events ↔ ¬ ∃ valid,
        (validate setup (setup.workspace branch) config).run.perform host s = (.ok (), valid) ∧
          FoundTwice setup branch host valid) := by
  obtain ⟨asked, journal, harmless⟩ :=
    (validate_harmless config : Only (validate setup (setup.workspace branch) config).run _) host s
  cases verdict : (validate setup (setup.workspace branch) config).run.perform host s with
  | mk result valid =>
  rw [verdict] at journal
  unfold addLocked
  rw [perform_bind verdict]
  cases result with
  | error e =>
    refine ⟨asked, journal, iff_of_true (deletesOnlyTried_of_spares ?_) ?_⟩
    · exact fun c reply member => (harmless c reply member).1
    · intro caught
      obtain ⟨other, same, -⟩ := caught
      cases same
  | ok _ =>
    obtain ⟨events, journal', exactly⟩ := build_deletes branch config host valid
    refine ⟨events ++ asked, by rw [List.append_assoc, ← journal]; exact journal', ?_⟩
    rw [deletesOnlyTried_append_iff harmless, exactly]
    refine not_congr ⟨fun twice => ⟨valid, rfl, twice⟩, ?_⟩
    intro caught
    obtain ⟨other, same, twice⟩ := caught
    cases same
    exact twice

end Lifecycle.Add

namespace Lifecycle

/-- The making of the worktree was cut short in an addition that was validated, and the two looks
for the branch after it both find it. -/
def CaughtOut (setup : Setup) (branch : String) (config : Config) (host : Host ω) (s : Session ω) :
    Prop :=
  ∃ guard locked valid,
    (acquire setup.lockTable branch).perform host s = (.ok guard, locked) ∧
    (Add.validate setup (setup.workspace branch) config).run.perform host locked =
      (.ok (), valid) ∧
    Add.FoundTwice setup branch host valid

/-- **A branch is deleted by force only after it was tried to create, but for one course of
events.** That course is the one where the making of the worktree is cut short and the branch
appears then. -/
theorem add_deletes_only_tried_iff (setup : Setup) (branch : String) (config : Config)
    (host : Host ω) (s : Session ω) :
    ∃ events, ((add setup branch config).perform host s).2.journal = events ++ s.journal ∧
      (DeletesOnlyTried branch events ↔ ¬ CaughtOut setup branch config host s) := by
  obtain ⟨first, journal, single⟩ := emits_acquire setup.lockTable branch host s
  cases lock : (acquire setup.lockTable branch : Act ω _).perform host s with
  | mk guard? locked =>
  rw [lock] at journal single
  unfold add
  dsimp only
  rw [perform_bind lock]
  cases guard? with
  | error e =>
    refine ⟨first, journal, iff_of_true (deletesOnlyTried_of_spares ?_) ?_⟩
    · rw [single]
      exact Composable.quiet (by simp)
    · intro caught
      obtain ⟨guard, locked', valid, same, -⟩ := caught
      cases lock.symm.trans same
  | ok guard =>
    obtain ⟨events, journal', exactly⟩ := Add.addLocked_deletes branch config host locked
    cases whole : (Add.addLocked setup (setup.workspace branch) config).perform host locked with
    | mk outcome after =>
    rw [whole] at journal'
    dsimp only
    rw [perform_bind whole]
    refine ⟨.released guard :: (events ++ first), ?_, ?_⟩
    · change Event.released guard :: after.journal = _
      rw [journal', journal, List.cons_append, List.append_assoc]
    · rw [deletesOnlyTried_cons_of_silent (by simp), deletesOnlyTried_append_iff, exactly]
      · refine not_congr ⟨?_, ?_⟩
        · intro caught
          obtain ⟨valid, valid', twice⟩ := caught
          exact ⟨guard, locked, valid, lock, valid', twice⟩
        · intro caught
          obtain ⟨guard', locked', valid, same, valid', twice⟩ := caught
          cases lock.symm.trans same
          exact ⟨valid, valid', twice⟩
      · rw [single]
        exact Composable.quiet (by simp)

/-- The branch `demo` is to be added where a directory is in the way of its worktree. -/
def obstructed : Setup where
  repository := { root := "repo", base := "trees" }
  mux := { kind := .tmux }
  shell := { path := "/bin/sh" }

/-- Nobody has the branch when it is looked for twice, and somebody has it afterwards. -/
def raced : Session Script where
  outside :=
    [{ outcome := .ok { stdout := "0\n" } }, { outcome := .ok { stdout := "demo\n" } },
      { outcome := .ok { exitCode := some 1 } }, { outcome := .ok { stdout := "@0\tshell\n" } },
      { outcome := .ok { exitCode := some 1 } },
      { outcome := .ok { stdout := "worktree repo\nHEAD 1111111\nbranch refs/heads/main\n\n" } },
      {}, {}, { outcome := .ok { stdout := "Deleted branch demo (was 2222222).\n" } }]
  files := { nodes := [(["trees"], .directory), (["trees", "demo"], .directory)] }

theorem raced_add_deletes_untried :
    ¬ DeletesOnlyTried "demo" ((add obstructed "demo" {}).perform Script.host raced).2.journal := by
  decide +kernel

end Lifecycle

end Worktop

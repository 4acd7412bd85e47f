import Worktop.Proofs.Attempts
import Worktop.Proofs.BlastRadius
import Worktop.Proofs.Bracket

/-! # How far a removal gets

Before it takes anything away, a removal looks what there is (`Worktop.Lifecycle.Remove.Sees`). What
was seen is then attempted to be taken away, each thing once and in order, whatever became of those
before (`Worktop.Lifecycle.Remove.tearDown_eq_attemptAll`). So all that is left in the end is told
of by an error of its own (`Worktop.Lifecycle.remove_accounts`).
-/

namespace Worktop.Lifecycle

open Act hiding gives_lift_bind

variable {ω : Type} {setup : Setup} {branch : String} {force : Bool} {host : Host ω}
  {s : Session ω}

namespace Remove

/-! ## What is seen -/

/-- What a removal sees of a workspace: what came of asking for the window, the worktree of the
branch, and whether there is the branch. -/
structure Sighting where
  window : Except Mux.Error Bool
  worktree : Option Worktree.Entry
  branch : Bool

namespace Sighting

/-- A window that could not be asked for counts as none. -/
def hasWindow (sighting : Sighting) : Bool :=
  match sighting.window with
  | .ok found => found
  | .error _ => false

/-- A window that could not be asked for is warned of. -/
def warnings (sighting : Sighting) : List Error :=
  match sighting.window with
  | .ok _ => []
  | .error e => [{ phase := .remove .validating, kind := .teardown, cause := .mux e }]

/-- What was seen of a workspace, in the order in which it is taken away. -/
def resources (sighting : Sighting) (workspace : Workspace) : List Resource :=
  (if sighting.hasWindow then [.window workspace.windowName] else []) ++
    (match sighting.worktree with
      | some entry => [.worktree workspace.branch entry.path]
      | none => []) ++
    (if sighting.branch then [.branch workspace.branch] else [])

theorem resources_eq_nil_iff {sighting : Sighting} {workspace : Workspace} :
    sighting.resources workspace = [] ↔
      (sighting.worktree.isNone && !sighting.branch && !sighting.hasWindow) = true := by
  unfold resources
  cases sighting.worktree <;> cases sighting.branch <;> cases sighting.hasWindow <;> simp

end Sighting

/-- A removal has its lock, has learnt from git what there is of the branch, which is not in the
main worktree, and has asked for the window: what it saw by then, and the state after that. -/
inductive Sees (setup : Setup) (branch : String) (host : Host ω) (s : Session ω) :
    Sighting → Session ω → Prop
  | all {guard : Guard} {entry : Option Worktree.Entry} {found : Bool}
      {window : Except Mux.Error Bool} {locked looked before : Session ω}
      (lock : (acquire setup.lockTable branch).perform host s = (.ok guard, locked))
      (look : (lookUp setup branch).run.perform host locked = (.ok (entry, found), looked))
      (linked : ∀ e, entry = some e → e.isMain = false)
      (ask : (setup.mux.windowExists (setup.workspace branch).windowName).run.perform host looked =
        (window, before)) :
      Sees setup branch host s { window, worktree := entry, branch := found } before

/-! ## Taking it away -/

/-- The state of a removal in which a resource is taken away. -/
def stateFor : Resource → RemoveState
  | .window _ | .pane .. => .destroyingWindow
  | .worktree .. => .removingWorktree
  | .branch _ => .deletingBranch

/-- What attempts removed, in order. -/
def removedBy (attempts : List (Resource × Fate)) : List Resource :=
  attempts.filterMap fun (resource, fate) =>
    match fate with
    | .removed => some resource
    | _ => none

/-- An error for each attempt that failed, in order. -/
def errorsOf (attempts : List (Resource × Fate)) : List Error :=
  attempts.filterMap fun (resource, fate) =>
    match fate with
    | .remains cause => some (failedIn (stateFor resource) cause)
    | _ => none

/-- What attempts came to. -/
def progressOf (attempts : List (Resource × Fate)) : Progress where
  removed := removedBy attempts
  errors := errorsOf attempts

theorem progressOf_append (first rest : List (Resource × Fate)) :
    progressOf (first ++ rest) = (progressOf first).append (progressOf rest) := by
  simp [progressOf, Progress.append, removedBy, errorsOf]

/-- A step that tells of a resource what became of it is an attempt at the resource. -/
theorem eq_attemptAll_single {ε : Type} {resource : Resource} {answer : Act ω (Except ε Unit)}
    {fate : Except ε Unit → Fate} {tell : Except ε Unit → Act ω Progress}
    (attempts : attempt setup force resource = answer >>= fun result => pure (fate result))
    (tells : ∀ result, tell result = pure (progressOf [(resource, fate result)])) :
    answer >>= tell = progressOf <$> attemptAll setup force [resource] := by
  rw [attemptAll, attempts, funext tells]
  simp [attemptAll]

theorem destroyWindow_eq_attemptAll (name : String) :
    (destroyWindow setup name : Act ω Progress) =
      progressOf <$> attemptAll setup force [.window name] := by
  unfold destroyWindow
  refine eq_attemptAll_single rfl fun result => ?_
  rcases result with e | _
  · cases e <;> rfl
  · rfl

theorem removeWorktree_eq_attemptAll (path : String) :
    (removeWorktree setup branch path force : Act ω Progress) =
      progressOf <$> attemptAll setup force [.worktree branch path] := by
  unfold removeWorktree
  refine eq_attemptAll_single rfl fun result => ?_
  rcases result with e | _
  · cases e <;> rfl
  · rfl

theorem deleteBranch_eq_attemptAll :
    (deleteBranch setup branch force : Act ω Progress) =
      progressOf <$> attemptAll setup force [.branch branch] := by
  unfold deleteBranch
  refine eq_attemptAll_single rfl fun result => ?_
  rcases result with e | _
  · cases e <;> rfl
  · rfl

/-- Three steps that are attempts each are attempts together. -/
theorem steps_eq_attemptAll {first second third : Act ω Progress} {xs ys zs : List Resource}
    (one : first = progressOf <$> attemptAll setup force xs)
    (two : second = progressOf <$> attemptAll setup force ys)
    (three : third = progressOf <$> attemptAll setup force zs) :
    (first >>= fun p => second >>= fun q => third >>= fun r => pure ((p.append q).append r)) =
      progressOf <$> attemptAll setup force (xs ++ ys ++ zs) := by
  rw [one, two, three, attemptAll_append, attemptAll_append]
  simp only [map_eq_pure_bind, bind_assoc, pure_bind, progressOf_append]

/-- A workspace is taken apart by attempts at what was seen of it. -/
theorem tearDown_eq_attemptAll (workspace : Workspace) (sighting : Sighting) :
    (tearDown setup workspace force sighting.hasWindow sighting.worktree sighting.branch :
      Act ω Progress) =
      progressOf <$> attemptAll setup force (sighting.resources workspace) := by
  have nothing : (pure {} : Act ω Progress) = progressOf <$> attemptAll setup force [] := rfl
  rw [tearDown_eq]
  apply steps_eq_attemptAll
  · split
    · exact destroyWindow_eq_attemptAll _
    · exact nothing
  · cases sighting.worktree with
    | some entry => exact removeWorktree_eq_attemptAll _
    | none => exact nothing
  · split
    · exact deleteBranch_eq_attemptAll
    · exact nothing

theorem Fate.ofMux_spares (answer : Except Mux.Error Unit) (branch : String) :
    ofMux answer ≠ .remains (.notFound branch) := by
  rcases answer with e | _
  · cases e <;> nofun
  · nofun

theorem Fate.ofGit_spares (answer : Except Worktree.Error Unit) (branch : String) :
    ofGit answer ≠ .remains (.notFound branch) := by
  rcases answer with e | _
  · cases e <;> nofun
  · nofun

theorem attempt_spares (resource : Resource) :
    Gives (attempt setup force resource : Act ω Fate) fun fate =>
      ∀ branch, fate ≠ .remains (.notFound branch) := by
  cases resource with
  | window name => exact fun _ _ => Fate.ofMux_spares _
  | worktree branch path => exact fun _ _ => Fate.ofGit_spares _
  | branch name => exact fun _ _ => Fate.ofGit_spares _
  | pane window pane => exact fun _ _ _ => nofun

/-- Nothing remains for want of a workspace. -/
theorem attemptAll_spares (setup : Setup) (force : Bool) (resources : List Resource) :
    Gives (attemptAll setup force resources : Act ω _) fun attempts =>
      ∀ e ∈ errorsOf attempts, e.isNotFound = false := by
  induction resources with
  | nil => exact fun _ _ _ member => absurd member List.not_mem_nil
  | cons resource rest ih =>
    unfold attemptAll
    refine (attempt_spares resource).bind fun fate spares => ih.bind fun others told => ?_
    intro _ _ e member
    cases fate with
    | removed | missing => exact told e member
    | remains cause =>
      rcases List.mem_cons.mp member with rfl | inRest
      · cases cause with
        | notFound name => exact absurd rfl (spares name)
        | _ => rfl
      · exact told e inRest

/-! ## The whole removal -/

variable {workspace : Workspace} {locked looked before after : Session ω}
  {entry : Option Worktree.Entry} {found : Bool} {window : Except Mux.Error Bool}

/-- What a removal tells once everything that it saw was attempted to be taken away. -/
def outcomeOf (workspace : Workspace) (sighting : Sighting) (attempts : List (Resource × Fate)) :
    Outcome RemoveState where
  state := if (errorsOf attempts).isEmpty then .done else .failed
  workspace
  succeeded := (errorsOf attempts).isEmpty
  removed := removedBy attempts
  errors := errorsOf attempts
  warnings := sighting.warnings

/-- What a removal does once it has looked. -/
def conclude (setup : Setup) (workspace : Workspace) (force : Bool) (sighting : Sighting) :
    Act ω (Outcome RemoveState) :=
  if sighting.resources workspace = [] then
    pure { state := .failed, workspace, errors := [rejection (.notFound workspace.branch)],
           warnings := sighting.warnings }
  else do
    let attempts ← attemptAll setup force (sighting.resources workspace)
    pure (outcomeOf workspace sighting attempts)

theorem conclude_eq (workspace : Workspace) (sighting : Sighting) :
    (conclude setup workspace force sighting : Act ω _) =
      if sighting.worktree.isNone && !sighting.branch && !sighting.hasWindow then
        pure { state := .failed, workspace, errors := [rejection (.notFound workspace.branch)],
               warnings := sighting.warnings }
      else
        tearDown setup workspace force sighting.hasWindow sighting.worktree sighting.branch >>=
          fun progress =>
            let succeeded := progress.errors.isEmpty
            pure { state := if succeeded then .done else .failed, workspace, succeeded,
                   removed := progress.removed, errors := progress.errors,
                   warnings := sighting.warnings } := by
  unfold conclude
  rw [tearDown_eq_attemptAll]
  simp only [Sighting.resources_eq_nil_iff, map_eq_pure_bind, bind_assoc, pure_bind]
  rfl

theorem conclude_plain (workspace : Workspace) (force : Bool) (sighting : Sighting) :
    Plain (conclude setup workspace force sighting : Act ω _) := by
  rw [conclude_eq]
  split
  · exact .pure _
  · exact (tearDown_plain _ _ _ _).bind fun _ => .pure _

/-- A removal looks for the branch, asks for the window unless the branch is in the main worktree,
and goes by what it has seen. -/
theorem removeLocked_eq (setup : Setup) (workspace : Workspace) (force : Bool) :
    (removeLocked setup workspace force : Act ω (Outcome RemoveState)) =
      (lookUp setup workspace.branch).run >>= fun
        | .error e => pure { state := .failed, workspace, errors := [rejection (.worktree e)] }
        | .ok (entry, branch) =>
          if (entry.map (·.isMain)).getD false then
            pure { state := .failed, workspace,
                   errors := [rejection (.mainWorktree workspace.branch)] }
          else
            (setup.mux.windowExists workspace.windowName).run >>= fun window =>
              conclude setup workspace force { window, worktree := entry, branch } := by
  unfold removeLocked
  refine bind_congr fun seen => ?_
  cases seen with
  | error e => rfl
  | ok seen =>
    obtain ⟨entry, branch⟩ := seen
    dsimp only
    split
    · rfl
    · refine bind_congr fun window => ?_
      rw [conclude_eq]
      cases window <;> rfl

theorem removeLocked_of_unanswered {e : Worktree.Error}
    (look : (lookUp setup workspace.branch).run.perform host locked = (.error e, looked)) :
    (removeLocked setup workspace force).perform host locked =
      ({ state := .failed, workspace, errors := [rejection (.worktree e)] }, looked) := by
  rw [removeLocked_eq, perform_bind look]
  rfl

theorem removeLocked_of_main {e : Worktree.Entry} (main : e.isMain = true)
    (look : (lookUp setup workspace.branch).run.perform host locked =
      (.ok (some e, found), looked)) :
    (removeLocked setup workspace force).perform host locked =
      ({ state := .failed, workspace, errors := [rejection (.mainWorktree workspace.branch)] },
        looked) := by
  rw [removeLocked_eq, perform_bind look]
  simp [main]
  rfl

theorem removeLocked_of_seen (workspace : Workspace) (force : Bool)
    (look : (lookUp setup workspace.branch).run.perform host locked = (.ok (entry, found), looked))
    (linked : ∀ e, entry = some e → e.isMain = false)
    (ask : (setup.mux.windowExists workspace.windowName).run.perform host looked =
      (window, before)) :
    (removeLocked setup workspace force).perform host locked =
      (conclude setup workspace force { window, worktree := entry, branch := found }).perform host
        before := by
  have apart : (entry.map (·.isMain)).getD false = false := by
    cases entry with
    | none => rfl
    | some e => exact linked e rfl
  rw [removeLocked_eq, perform_bind look]
  simp only [apart, Bool.false_eq_true, ↓reduceIte]
  rw [perform_bind ask]

/-- Between two states nothing destructive is run. -/
def Harmless (s s' : Session ω) : Prop :=
  ∃ events, s'.journal = events ++ s.journal ∧ RunsOnly (fun c => ¬ c.Destructive) events

theorem Harmless.trans {s s1 s2 : Session ω} (first : Harmless s s1) (second : Harmless s1 s2) :
    Harmless s s2 := by
  obtain ⟨old, journal, only⟩ := first
  obtain ⟨new, journal', only'⟩ := second
  exact ⟨new ++ old, by rw [journal', journal, List.append_assoc], Composable.append only' only⟩

theorem harmless_of_only {α : Type} {act : Act ω α} {a : α} {s s' : Session ω}
    (only : act.Only fun c => ¬ c.Destructive) (done : act.perform host s = (a, s')) :
    Harmless s s' := by
  have harmless := only host s
  rw [done] at harmless
  exact harmless

theorem Sees.harmless {sighting : Sighting} (sees : Sees setup branch host s sighting before) :
    Harmless s before := by
  cases sees with
  | all lock look linked ask =>
    have asks := (Multiplexer.windowExists_mild (ω := ω) (m := setup.mux)
      (setup.workspace branch).windowName).imp fun _ mild => mild.2
    exact ((harmless_of_only (always_acquire _ _) lock).trans
      (harmless_of_only (lookUp_harmless branch) look)).trans (harmless_of_only asks.only ask)

/-- Where there is a lock for it, a removal does its work and gives the lock up. -/
theorem remove_of_locked {guard : Guard} {locked after : Session ω} {o : Outcome RemoveState}
    (lock : (acquire setup.lockTable branch).perform host s = (.ok guard, locked))
    (done : (removeLocked setup (setup.workspace branch) force).perform host locked = (o, after)) :
    (remove setup branch force).perform host s =
      (o, ((release guard).perform host after).2) := by
  unfold remove
  dsimp only
  rw [perform_bind lock]
  dsimp only
  rw [perform_bind done]
  rfl

/-- A removal that does not get to see what there is of a workspace turns the request down. -/
theorem sees_or_rejected (setup : Setup) (branch : String) (force : Bool) (host : Host ω)
    (s : Session ω) :
    (∃ sighting before, Sees setup branch host s sighting before) ∨
      ∃ cause after, (remove setup branch force).perform host s =
        ({ state := .failed, workspace := setup.workspace branch, errors := [rejection cause] },
          after) ∧ (∀ name, cause ≠ .notFound name) ∧ Harmless s after := by
  cases lock : (acquire setup.lockTable branch : Act ω _).perform host s with
  | mk guard? locked =>
  have quiet := harmless_of_only (always_acquire _ _) lock
  cases guard? with
  | error e =>
    refine .inr ⟨.lock e, locked, ?_, nofun, quiet⟩
    unfold remove
    dsimp only
    rw [perform_bind lock]
    rfl
  | ok guard =>
    cases look : (lookUp setup branch : Worktree.Result ω _).run.perform host locked with
    | mk result looked =>
    have quiet := quiet.trans (harmless_of_only (lookUp_harmless branch) look)
    have release : Harmless looked ((release guard).perform host looked).2 :=
      always_release guard host looked
    rcases result with e | ⟨entry, found⟩
    · exact .inr ⟨_, _, remove_of_locked lock (removeLocked_of_unanswered look), nofun,
        quiet.trans release⟩
    cases ask : (setup.mux.windowExists (setup.workspace branch).windowName :
        Mux.Result ω _).run.perform host looked with
    | mk window before =>
    cases entry with
    | none => exact .inl ⟨_, _, .all lock look nofun ask⟩
    | some e =>
      cases main : e.isMain with
      | true =>
        exact .inr ⟨_, _, remove_of_locked lock (removeLocked_of_main main look), nofun,
          quiet.trans release⟩
      | false =>
        refine .inl ⟨_, _, .all lock look (fun e' same => ?_) ask⟩
        cases same
        exact main

/-- Once a removal has seen what there is, all that it tells and runs is settled by what it does
then. -/
theorem Sees.concludes {sighting : Sighting} {o : Outcome RemoveState}
    (sees : Sees setup branch host s sighting before)
    (concluded : (conclude setup (setup.workspace branch) force sighting).perform host before =
      (o, after)) :
    ((remove setup branch force).perform host s).1 = o ∧
      ((remove setup branch force).perform host s).2.commands = after.commands := by
  cases sees with
  | all lock look linked ask =>
    have done := removeLocked_of_seen (setup.workspace branch) force look linked ask
    rw [concluded] at done
    rw [remove_of_locked lock done]
    exact ⟨rfl, rfl⟩

theorem conclude_of_absent {sighting : Sighting} (force : Bool)
    (absent : sighting.resources workspace = []) :
    (conclude setup workspace force sighting).perform host before =
      ({ state := .failed, workspace, errors := [rejection (.notFound workspace.branch)],
         warnings := sighting.warnings }, before) := by
  unfold conclude
  rw [if_pos absent]
  rfl

theorem conclude_of_present {sighting : Sighting} {attempts : List (Resource × Fate)}
    (present : sighting.resources workspace ≠ [])
    (attempted : (attemptAll setup force (sighting.resources workspace)).perform host before =
      (attempts, after)) :
    (conclude setup workspace force sighting).perform host before =
      (outcomeOf workspace sighting attempts, after) := by
  unfold conclude
  rw [if_neg present, perform_bind attempted]
  rfl

/-- What is told of a removal that has seen what there is. -/
structure Concluded (setup : Setup) (branch : String) (force : Bool) (host : Host ω)
    (sighting : Sighting) (before : Session ω) (o : Outcome RemoveState) (ended : Session ω) :
    Prop where
  warnings : o.warnings = sighting.warnings
  absent : sighting.resources (setup.workspace branch) = [] →
    ended.commands = before.commands ∧ o.removed = [] ∧ o.errors = [rejection (.notFound branch)]
  attempted : sighting.resources (setup.workspace branch) ≠ [] → ∃ attempts after,
    (attemptAll setup force (sighting.resources (setup.workspace branch))).perform host before =
      (attempts, after) ∧
    attempts.map Prod.fst = sighting.resources (setup.workspace branch) ∧
    ended.commands = after.commands ∧ o.removed = removedBy attempts ∧
    o.errors = errorsOf attempts

/-- What any removal tells of itself. -/
structure Accounted (setup : Setup) (branch : String) (host : Host ω) (s : Session ω)
    (o : Outcome RemoveState) : Prop where
  states : o.state = .done ∨ o.state = .failed
  succeeded : o.succeeded = true ↔ o.state = .done
  complete : o.state = .done ↔ o.errors = []
  notFound : o.isNotFound = true ↔ ∃ sighting before,
    Sees setup branch host s sighting before ∧ sighting.resources (setup.workspace branch) = []

theorem Sees.concluded {sighting : Sighting} (sees : Sees setup branch host s sighting before) :
    Concluded setup branch force host sighting before
      ((remove setup branch force).perform host s).1
      ((remove setup branch force).perform host s).2 := by
  by_cases absent : sighting.resources (setup.workspace branch) = []
  · obtain ⟨told, ran⟩ := sees.concludes (conclude_of_absent force absent)
    rw [told]
    exact ⟨rfl, fun _ => ⟨ran, rfl, rfl⟩, fun present => absurd absent present⟩
  · cases attempted : (attemptAll setup force (sighting.resources (setup.workspace branch))).perform
        host before with
    | mk attempts after =>
    obtain ⟨told, ran⟩ := sees.concludes (conclude_of_present absent attempted)
    rw [told]
    exact ⟨rfl, fun nothing => absurd nothing absent,
      fun _ => ⟨attempts, after, attempted, order_of_attempted attempted, ran, rfl, rfl⟩⟩

theorem remove_accounted (setup : Setup) (branch : String) (force : Bool) (host : Host ω)
    (s : Session ω) :
    Accounted setup branch host s ((remove setup branch force).perform host s).1 := by
  have absent : ∀ {sighting before}, Sees setup branch host s sighting before →
      sighting.resources (setup.workspace branch) = [] →
        ((remove setup branch force).perform host s).1.isNotFound = true := by
    intro sighting before sees absent
    have concluded : Concluded setup branch force host sighting before _ _ := sees.concluded
    obtain ⟨-, -, errors⟩ := concluded.absent absent
    unfold Outcome.isNotFound
    rw [errors]
    rfl
  obtain ⟨sighting, before, sees⟩ | ⟨cause, after, performed, apart, -⟩ :=
    sees_or_rejected setup branch force host s
  · by_cases nothing : sighting.resources (setup.workspace branch) = []
    · obtain ⟨told, -⟩ := sees.concludes (conclude_of_absent force nothing)
      rw [told]
      exact ⟨.inr rfl, by simp, by simp, iff_of_true rfl ⟨sighting, before, sees, nothing⟩⟩
    · cases attempted : (attemptAll setup force
          (sighting.resources (setup.workspace branch))).perform host before with
      | mk attempts after =>
      have spares := attemptAll_spares setup force (sighting.resources (setup.workspace branch))
        host before
      rw [attempted] at spares
      have unfound : (outcomeOf (setup.workspace branch) sighting attempts).isNotFound = false := by
        simpa [Outcome.isNotFound, outcomeOf] using spares
      obtain ⟨told, -⟩ := sees.concludes (conclude_of_present nothing attempted)
      rw [told] at absent ⊢
      refine ⟨?_, by simp [outcomeOf], by simp [outcomeOf], fun found => ?_,
        fun ⟨_, _, sees, nothing⟩ => absent sees nothing⟩
      · unfold outcomeOf
        dsimp only
        split
        · exact .inl rfl
        · exact .inr rfl
      · rw [unfound] at found
        cases found
  · rw [performed] at absent ⊢
    refine ⟨.inr rfl, by simp, by simp, fun found => ?_, fun ⟨_, _, sees, nothing⟩ => ?_⟩
    · cases cause with
      | notFound name => exact absurd rfl (apart name)
      | _ => cases found
    · exact absent sees nothing

end Remove

open Remove

/-- **A removal gets as far as it can, and accounts for it.** Before it has seen what there is it
runs nothing destructive; if it does not get to see it, or sees nothing, it ends there. Otherwise
the window, the worktree and the branch are attempted to be taken away, each exactly if it was seen,
in this order and whatever became of those before; each shows as removed, as one error of its own
step, or not at all if it was missing by then. A removal is done exactly if it tells of no error. -/
theorem remove_accounts (setup : Setup) (branch : String) (force : Bool) (host : Host ω)
    (s : Session ω) :
    let ended := (remove setup branch force).perform host s
    Accounted setup branch host s ended.1 ∧
      ((¬ ∃ sighting before, Sees setup branch host s sighting before) →
        Harmless s ended.2 ∧ ∃ cause, ended.1.errors = [rejection cause] ∧ ended.1.removed = [] ∧
          ended.1.warnings = []) ∧
      ∀ sighting before, Sees setup branch host s sighting before →
        Harmless s before ∧
          Concluded setup branch force host sighting before ended.1 ended.2 := by
  refine ⟨remove_accounted setup branch force host s, fun unseen => ?_,
    fun sighting before sees => ⟨sees.harmless, sees.concluded⟩⟩
  obtain seen | ⟨cause, after, performed, -, quiet⟩ :=
    sees_or_rejected setup branch force host s
  · exact absurd seen unseen
  · rw [performed]
    exact ⟨quiet, cause, rfl, rfl, rfl⟩

end Worktop.Lifecycle

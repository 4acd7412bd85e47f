import Worktop.Lifecycle.Remove
import Worktop.Proofs.Teardown

/-! # A removal leaves nothing of a workspace

Whatever is there of a workspace, its removal by force takes away, and nothing else: the windows of
its name, the worktree of its branch with the directory, and the branch (`Worktop.World.cleared`).
What is not there is neither missed nor said to be removed, and a second removal finds nothing
(`Worktop.Lifecycle.remove_converges`).
-/

namespace Worktop

open Act World

variable {course : Nat → Turn} {w : World} {fs : FileSystem} {branch name : String}

namespace World

/-- Something of a workspace is there. -/
def Bears (w : World) (name branch : String) : Prop :=
  name ∈ w.windows.map (·.name) ∨ (w.linkedTo? branch).isSome = true ∨ branch ∈ w.branches

instance (w : World) (name branch : String) : Decidable (w.Bears name branch) :=
  inferInstanceAs (Decidable (_ ∨ _ ∨ _))

/-- The worktree of a branch is registered, but its directory is gone. -/
def strays (w : World) (fs : FileSystem) (branch : String) : Bool :=
  (w.linkedTo? branch).any (!fs.pathExists ·.path)

/-- The world without the windows of a name, the worktree of a branch, and the branch. With a
worktree whose directory is gone go all such worktrees. -/
def cleared (w : World) (fs : FileSystem) (name branch : String) : World :=
  { w with
    branches := w.branches.filter (· ≠ branch)
    linked :=
      if w.strays fs branch then w.linked.filter (fs.pathExists ·.path)
      else w.linked.filter (·.branch ≠ some branch)
    windows := w.windows.filter (·.name ≠ name) }

/-- The files without the directory of the worktree of a branch. -/
def filesCleared (w : World) (fs : FileSystem) (branch : String) : FileSystem :=
  ((w.linkedTo? branch).bind fun reg => (fs.remove reg.path).toOption).getD fs

/-- The world without the worktree of a branch, in the way it is removed. -/
def unlinked (w : World) (fs : FileSystem) (branch : String) : World :=
  { w with
    linked :=
      match w.linkedTo? branch with
      | none => w.linked
      | some reg =>
        if fs.pathExists reg.path then w.linked.filter (·.path ≠ reg.path)
        else w.linked.filter (fs.pathExists ·.path) }

/-- No branch is checked out in two worktrees. -/
def Exclusive (w : World) : Prop :=
  (w.registrations.filterMap (·.branch)).Nodup

instance (w : World) : Decidable w.Exclusive :=
  inferInstanceAs (Decidable (List.Nodup _))

theorem branch_of_linkedTo? {reg : Registration} (linked : w.linkedTo? branch = some reg) :
    reg ∈ w.linked ∧ reg.branch = some branch := by
  have present : reg ∈ w.linked := List.mem_of_find?_eq_some linked
  have own := List.find?_some linked
  exact ⟨present, by simpa using own⟩

theorem linkedTo?_eq_none :
    w.linkedTo? branch = none ↔ ∀ reg ∈ w.linked, reg.branch ≠ some branch := by
  simp [linkedTo?, List.find?_eq_none]

/-- Without a worktree of the branch none is left out for it. -/
theorem filter_linked_of_none (unlinked : w.linkedTo? branch = none) :
    w.linked.filter (·.branch ≠ some branch) = w.linked := by
  rw [List.filter_eq_self]
  intro reg member
  exact decide_eq_true (linkedTo?_eq_none.mp unlinked reg member)

theorem Exclusive.eq_of_branch (exclusive : w.Exclusive) {first second : Registration}
    (one : first ∈ w.linked) (other : second ∈ w.linked) (firstBranch : first.branch = some branch)
    (secondBranch : second.branch = some branch) : first = second :=
  eq_of_shared exclusive (List.mem_cons_of_mem _ one) (List.mem_cons_of_mem _ other) firstBranch
    secondBranch

/-- However the worktree of a branch is removed, what is left of the worktrees is the same. -/
theorem unlinked_eq (sound : w.Sound) (exclusive : w.Exclusive) :
    w.unlinked fs branch = { w with
      linked :=
        if w.strays fs branch then w.linked.filter (fs.pathExists ·.path)
        else w.linked.filter (·.branch ≠ some branch) } := by
  unfold unlinked strays
  cases linked : w.linkedTo? branch with
  | none =>
    simp only [Option.any_none, Bool.false_eq_true, ↓reduceIte, filter_linked_of_none linked]
  | some reg =>
    obtain ⟨present, own⟩ := branch_of_linkedTo? linked
    by_cases stands : fs.pathExists reg.path = true
    · have same : w.linked.filter (·.path ≠ reg.path) =
          w.linked.filter (·.branch ≠ some branch) := by
        apply List.filter_congr
        intro other member
        rw [decide_eq_decide]
        apply not_congr
        constructor
        · intro path
          have one : other = reg :=
            sound.eq_of_path (List.mem_cons_of_mem _ member) (List.mem_cons_of_mem _ present) path
          rw [one]
          exact own
        · intro taken
          rw [exclusive.eq_of_branch member present taken own]
      simp only [stands, ↓reduceIte, Option.any_some, Bool.not_true, Bool.false_eq_true, ← same]
    · simp only [stands, Bool.false_eq_true, ↓reduceIte, Option.any_some, Bool.not_false]

/-- What is left of the worktrees has not got the branch. -/
theorem cleared_unlinked (exclusive : w.Exclusive) :
    ∀ reg ∈ (w.cleared fs name branch).linked, reg.branch ≠ some branch := by
  intro reg member taken
  unfold cleared at member
  dsimp only at member
  split at member
  · rename_i strays
    obtain ⟨present, stands⟩ := List.mem_filter.mp member
    obtain ⟨other, linked, gone⟩ := Option.any_eq_true _ _ |>.mp strays
    obtain ⟨present', own⟩ := branch_of_linkedTo? linked
    rw [exclusive.eq_of_branch present present' taken own] at stands
    simp [stands] at gone
  · obtain ⟨-, free⟩ := List.mem_filter.mp member
    exact of_decide_eq_true free taken

theorem not_bears_cleared (exclusive : w.Exclusive) :
    ¬ (w.cleared fs name branch).Bears name branch := by
  intro bears
  rcases bears with window | worktree | kept
  · obtain ⟨window, member, named⟩ := List.mem_map.mp window
    exact of_decide_eq_true (List.mem_filter.mp member).2 named
  · obtain ⟨reg, linked⟩ := Option.isSome_iff_exists.mp worktree
    obtain ⟨present, own⟩ := branch_of_linkedTo? linked
    exact cleared_unlinked exclusive reg present own
  · exact of_decide_eq_true (List.mem_filter.mp kept).2 rfl

/-- Where there is nothing, nothing is cleared. -/
theorem cleared_of_not_bears (fs : FileSystem) (nothing : ¬ w.Bears name branch) :
    w.cleared fs name branch = w ∧ w.filesCleared fs branch = fs := by
  have unopened : name ∉ w.windows.map (·.name) := fun opened => nothing (.inl opened)
  have absent : branch ∉ w.branches := fun present => nothing (.inr (.inr present))
  have unlinked : w.linkedTo? branch = none := by
    cases linked : w.linkedTo? branch with
    | none => rfl
    | some reg => exact absurd (.inr (.inl (by rw [linked]; rfl))) nothing
  have windows : w.windows.filter (·.name ≠ name) = w.windows :=
    congrArg World.windows (withoutWindows_of_closed unopened)
  have branches : w.branches.filter (· ≠ branch) = w.branches :=
    congrArg World.branches (withoutBranch_of_absent absent)
  constructor
  · unfold cleared strays
    rw [unlinked, windows, branches]
    simp only [Option.any_none, Bool.false_eq_true, ↓reduceIte, filter_linked_of_none unlinked]
  · rw [filesCleared, unlinked]
    rfl

theorem linked_cleared : (w.cleared fs name branch).linked.Sublist w.linked := by
  unfold World.cleared
  dsimp only
  split
  · exact List.filter_sublist
  · exact List.filter_sublist

theorem Sound.cleared (sound : w.Sound) : (w.cleared fs name branch).Sound :=
  sound.of_sublist rfl linked_cleared List.filter_sublist rfl

theorem Exclusive.cleared (exclusive : w.Exclusive) : (w.cleared fs name branch).Exclusive :=
  List.Nodup.sublist ((linked_cleared.cons_cons _).filterMap _) exclusive

end World

namespace Lifecycle.Remove

variable {setup : Setup}

/-- What there is to be removed of a workspace, in the order in which it is. -/
def pieces (w : World) (workspace : Workspace) : List Resource :=
  (if workspace.windowName ∈ w.windows.map (·.name) then [.window workspace.windowName] else []) ++
    ((w.linkedTo? workspace.branch).map (.worktree workspace.branch ·.path)).toList ++
    (if workspace.branch ∈ w.branches then [.branch workspace.branch] else [])

theorem destroyWindow_ends (tmux : setup.mux.kind = .tmux) (sound : w.Sound) (name : String) :
    Ends (if decide (name ∈ w.windows.map (·.name)) then destroyWindow setup name else pure {} :
      Act Scene Progress) course w fs
      { removed := if name ∈ w.windows.map (·.name) then [.window name] else [] }
      (w.withoutWindows name) fs := by
  by_cases opened : name ∈ w.windows.map (·.name)
  · simp only [opened, decide_true, ↓reduceIte]
    exact (Multiplexer.destroyWindow_ends tmux sound opened).bind (tells_pure _)
  · simp only [opened, decide_false, Bool.false_eq_true, ↓reduceIte,
      withoutWindows_of_closed opened]
    exact tells_pure _

theorem removeWorktree_ends (sound : w.Sound) (apart : w.main.branch ≠ some branch) :
    Ends (match (w.linkedTo? branch).map (entryOf fs) with
      | some entry => removeWorktree setup branch entry.path true
      | none => pure {} : Act Scene Progress) course w fs
      { removed := ((w.linkedTo? branch).map (.worktree branch ·.path)).toList }
      (w.unlinked fs branch) (w.filesCleared fs branch) := by
  unfold World.unlinked World.filesCleared
  cases linked : w.linkedTo? branch with
  | none => exact tells_pure _
  | some reg =>
    by_cases stands : fs.pathExists reg.path = true
    · simp only [stands, ↓reduceIte, Option.bind_some, FileSystem.remove_of_pathExists stands]
      exact (setup.repository.remove_ends sound apart linked stands true).bind (tells_pure _)
    · simp only [stands, Bool.false_eq_true, ↓reduceIte, Option.bind_some,
        FileSystem.toOption_remove_of_missing stands]
      exact (setup.repository.remove_prunes sound apart linked stands true).bind (tells_pure _)

theorem deleteBranch_ends (free : ∀ reg ∈ w.registrations, reg.branch ≠ some branch) :
    Ends (if decide (branch ∈ w.branches) then deleteBranch setup branch true else pure {} :
      Act Scene Progress) course w fs
      { removed := if branch ∈ w.branches then [.branch branch] else [] }
      (w.withoutBranch branch) fs := by
  by_cases present : branch ∈ w.branches
  · simp only [present, decide_true, ↓reduceIte]
    exact (setup.repository.deleteBranch_ends present free true).bind (tells_pure _)
  · simp only [present, decide_false, Bool.false_eq_true, ↓reduceIte,
      withoutBranch_of_absent present]
    exact tells_pure _

theorem tearDown_ends (tmux : setup.mux.kind = .tmux) (sound : w.Sound) (exclusive : w.Exclusive)
    (workspace : Workspace) (apart : w.main.branch ≠ some workspace.branch) :
    Ends (tearDown setup workspace true (decide (workspace.windowName ∈ w.windows.map (·.name)))
        ((w.linkedTo? workspace.branch).map (entryOf fs))
        (decide (workspace.branch ∈ w.branches)) : Act Scene Progress) course w fs
      { removed := pieces w workspace }
      (w.cleared fs workspace.windowName workspace.branch)
      (w.filesCleared fs workspace.branch) := by
  have cleared : ((w.withoutWindows workspace.windowName).unlinked fs
      workspace.branch).withoutBranch workspace.branch =
        w.cleared fs workspace.windowName workspace.branch := by
    rw [unlinked_eq (sound.withoutWindows _) exclusive]
    rfl
  -- The worktree goes before the branch, which cannot be deleted while it is checked out.
  have free : ∀ reg ∈ ((w.withoutWindows workspace.windowName).unlinked fs
      workspace.branch).registrations, reg.branch ≠ some workspace.branch := by
    rw [unlinked_eq (sound.withoutWindows _) exclusive]
    intro reg member
    rcases List.mem_cons.mp member with rfl | linked
    · exact apart
    · have kept : reg ∈ (w.cleared fs workspace.windowName workspace.branch).linked := linked
      exact cleared_unlinked exclusive reg kept
  rw [tearDown_eq]
  refine (destroyWindow_ends tmux sound workspace.windowName).bind ?_
  refine (removeWorktree_ends (sound.withoutWindows _) apart).bind ?_
  refine (deleteBranch_ends free).bind ?_
  rw [cleared]
  exact tells_pure _

/-- What a removal finds out before it removes anything. -/
theorem lookUp_tells (sound : w.Sound) (apart : w.main.branch ≠ some branch) :
    Tells (lookUp setup branch : Worktree.Result Scene _).run course w fs
      (.ok ((w.linkedTo? branch).map (entryOf fs), decide (branch ∈ w.branches))) := by
  refine (setup.repository.findWorktree_tells sound apart).andThen ?_
  refine (setup.repository.branchExists_tells branch).andThen ?_
  exact tells_ok _

/-- What comes of a removal by force: all that is there is removed, or nothing is there. -/
def verdict (w : World) (workspace : Workspace) : Outcome RemoveState :=
  if w.Bears workspace.windowName workspace.branch then
    { state := .done, workspace, succeeded := true, removed := pieces w workspace }
  else { state := .failed, workspace, errors := [rejection (.notFound workspace.branch)] }

theorem verdict_of_bears {workspace : Workspace}
    (bears : w.Bears workspace.windowName workspace.branch) :
    verdict w workspace =
      { state := .done, workspace, succeeded := true, removed := pieces w workspace } :=
  if_pos bears

theorem verdict_of_not_bears {workspace : Workspace}
    (nothing : ¬ w.Bears workspace.windowName workspace.branch) :
    verdict w workspace =
      { state := .failed, workspace, errors := [rejection (.notFound workspace.branch)] } :=
  if_neg nothing

theorem removeLocked_ends (tmux : setup.mux.kind = .tmux) (sound : w.Sound)
    (exclusive : w.Exclusive) (workspace : Workspace)
    (apart : w.main.branch ≠ some workspace.branch) :
    Ends (removeLocked setup workspace true : Act Scene _) course w fs (verdict w workspace)
      (w.cleared fs workspace.windowName workspace.branch)
      (w.filesCleared fs workspace.branch) := by
  unfold removeLocked
  refine (lookUp_tells sound apart).bind ?_
  have linkedApart : (((w.linkedTo? workspace.branch).map (entryOf fs)).map (·.isMain)).getD false =
      false := by
    cases w.linkedTo? workspace.branch <;> rfl
  dsimp only
  rw [linkedApart]
  refine (Multiplexer.windowExists_tells tmux sound workspace.windowName).bind ?_
  have nothing : (((w.linkedTo? workspace.branch).map (entryOf fs)).isNone &&
      !decide (workspace.branch ∈ w.branches) &&
      !decide (workspace.windowName ∈ w.windows.map (·.name))) =
        !decide (w.Bears workspace.windowName workspace.branch) := by
    rw [Bool.eq_iff_iff]
    simp only [Option.isNone_map, Bool.and_eq_true, Option.isNone_iff_eq_none, Bool.not_eq_true',
      decide_eq_false_iff_not]
    unfold World.Bears
    rw [not_or, not_or, Option.not_isSome_iff_eq_none]
    constructor
    · intro ⟨⟨linked, absent⟩, closed⟩
      exact ⟨closed, linked, absent⟩
    · intro ⟨closed, linked, absent⟩
      exact ⟨⟨linked, absent⟩, closed⟩
  refine (tells_pure _).bind ?_
  unfold verdict
  dsimp only
  rw [nothing]
  by_cases bears : w.Bears workspace.windowName workspace.branch
  · simp only [bears, decide_true, Bool.not_true, Bool.false_eq_true, ↓reduceIte]
    exact (tearDown_ends tmux sound exclusive workspace apart).bind (tells_pure _)
  · obtain ⟨world, files⟩ := World.cleared_of_not_bears fs bears
    simp only [bears, decide_false, Bool.not_false, ↓reduceIte, world, files]
    exact tells_pure _

end Lifecycle.Remove

namespace Lifecycle

variable {setup : Setup} {s : Session Scene} {guard : Guard} {locks : Locks}

/-- A removal by force that gets its lock ends in one way. -/
theorem remove_ends (course : Nat → Turn) (tmux : setup.mux.kind = .tmux)
    (sound : s.outside.world.Sound) (exclusive : s.outside.world.Exclusive)
    (apart : s.outside.world.main.branch ≠ some branch)
    (taken : s.locks.acquire s.files setup.lockTable branch = (.ok guard, locks, fs)) :
    let ended := (remove setup branch true).perform (host course) s
    ended.1 = Remove.verdict s.outside.world (setup.workspace branch) ∧
      ended.2.outside.world =
        s.outside.world.cleared fs (setup.workspace branch).windowName branch ∧
      ended.2.files = s.outside.world.filesCleared fs branch ∧ ended.2.locks = s.locks := by
  have locked : Ends (Remove.removeLocked setup (setup.workspace branch) true) course
      s.outside.world fs _ _ _ :=
    Remove.removeLocked_ends tmux sound exclusive (setup.workspace branch) apart
  obtain ⟨⟨outcome, world, files⟩, same⟩ := Leads.locked _ locked taken
  exact ⟨outcome, world, files, same⟩

/-- **A removal converges.** Whatever is there of the workspace of a branch that is not checked out
in the main worktree, its removal by force ends in a world without it and with all else as it was;
it fails only where nothing is there, and says so. A second removal says so too, and changes
nothing. -/
theorem remove_converges (course : Nat → Turn) (tmux : setup.mux.kind = .tmux)
    (sound : s.outside.world.Sound) (exclusive : s.outside.world.Exclusive)
    (apart : s.outside.world.main.branch ≠ some branch)
    (taken : s.locks.acquire s.files setup.lockTable branch = (.ok guard, locks, fs)) :
    let w := s.outside.world
    let workspace := setup.workspace branch
    let ended := (remove setup branch true).perform (host course) s
    (ended.2.outside.world = w.cleared fs workspace.windowName branch ∧
      ended.2.files = w.filesCleared fs branch ∧ ended.2.locks = s.locks ∧
      ¬ ended.2.outside.world.Bears workspace.windowName branch) ∧
    (if w.Bears workspace.windowName branch then
      ended.1 =
        { state := .done, workspace, succeeded := true, removed := Remove.pieces w workspace }
    else
      ended.1 = { state := .failed, workspace, errors := [Remove.rejection (.notFound branch)] } ∧
        ended.1.isNotFound = true) ∧
    ∀ (later : Nat → Turn) (again : Session Scene) (guard' : Guard) (locks' : Locks)
      (fs' : FileSystem), again.outside.world = ended.2.outside.world →
      again.locks.acquire again.files setup.lockTable branch = (.ok guard', locks', fs') →
      let second := (remove setup branch true).perform (host later) again
      second.1.state = .failed ∧ second.1.isNotFound = true ∧ second.1.removed = [] ∧
        second.2.outside.world = again.outside.world ∧ second.2.files = fs' := by
  intro w workspace ended
  have nothing : ¬ (w.cleared fs workspace.windowName branch).Bears workspace.windowName branch :=
    World.not_bears_cleared exclusive
  obtain ⟨outcome, world, files, same⟩ := remove_ends course tmux sound exclusive apart taken
  refine ⟨⟨world, files, same, world ▸ nothing⟩, ?_, ?_⟩
  · by_cases bears : w.Bears workspace.windowName branch
    · rw [if_pos bears]
      exact outcome.trans (Remove.verdict_of_bears bears)
    · have failed := outcome.trans (Remove.verdict_of_not_bears bears)
      rw [if_neg bears]
      exact ⟨failed, congrArg Outcome.isNotFound failed⟩
  · intro later again guard' locks' fs' left taken' second
    rw [world] at left
    have nothing' : ¬ again.outside.world.Bears workspace.windowName branch := left ▸ nothing
    obtain ⟨outcome', world', files', -⟩ := remove_ends later tmux (left ▸ sound.cleared)
      (left ▸ exclusive.cleared) (left ▸ apart) taken'
    obtain ⟨sameWorld, sameFiles⟩ := World.cleared_of_not_bears fs' nothing'
    have failed := outcome'.trans (Remove.verdict_of_not_bears nothing')
    exact ⟨congrArg Outcome.state failed, congrArg Outcome.isNotFound failed,
      congrArg Outcome.removed failed, world'.trans sameWorld, files'.trans sameFiles⟩

/-- The worktree of `demo` is there with its window, and so is that of another branch, whose
directory is gone. -/
def abandoned : Session Scene where
  outside :=
    { world :=
        { branches := ["main", "demo", "other"]
          main := { path := "/repo", head := some "1111111", branch := some "main" }
          linked :=
            [{ path := "/trees/demo", head := some "2222222", branch := some "demo" },
              { path := "/trees/other", head := some "3333333", branch := some "other" }]
          windows :=
            [{ id := "@1", name := "shell", panes := ["%1"] },
              { id := "@2", name := "tm-demo", panes := ["%2", "%3"] }] } }
  files := { nodes := [(["trees"], .directory), (["trees", "demo"], .directory)] }

/-- Worktrees go to `/trees`, and windows to tmux. -/
def inTrees : Setup where
  repository := { root := "/repo", base := "/trees" }
  mux := { kind := .tmux }
  shell := { path := "/bin/sh" }

theorem abandoned_converges :
    ((remove inTrees "demo" true).perform (host fun _ => {}) abandoned).1.state = .done ∧
      ((remove inTrees "demo" true).perform (host fun _ => {}) abandoned).2.outside.world =
        { abandoned.outside.world with
          branches := ["main", "other"]
          linked := [{ path := "/trees/other", head := some "3333333", branch := some "other" }]
          windows := [{ id := "@1", name := "shell", panes := ["%1"] }] } := by
  have sound : abandoned.outside.world.Sound :=
    ⟨by decide, by decide, by decide, by decide, by decide, by decide, by decide,
      fun _ taken => of_decide_eq_true taken⟩
  have taken : abandoned.locks.acquire abandoned.files inTrees.lockTable "demo" =
      (.ok ⟨0, "demo", none⟩, { held := [(0, "demo")] }, abandoned.files) := rfl
  have converges := remove_converges (fun _ => {}) rfl sound (by decide) (by decide) taken
  generalize (remove inTrees "demo" true).perform (host fun _ => {}) abandoned = ended
    at converges ⊢
  obtain ⟨⟨world, -⟩, outcome, -⟩ := converges
  rw [if_pos (.inr (.inr (by decide)))] at outcome
  rw [outcome, world]
  exact ⟨rfl, rfl⟩

end Lifecycle

end Worktop

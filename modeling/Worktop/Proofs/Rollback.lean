import Worktop.Lifecycle.Add
import Worktop.Proofs.Branch.Handle
import Worktop.Proofs.Creation
import Worktop.Proofs.Teardown

/-! # What was made is removed again

How far an addition has come is told by what it has noted (`Worktop.Lifecycle.Add.Built`): nothing,
the branch alone, the branch with its worktree, or these and the window with its panes. From each of
these the rollback leads back to the world that was there before
(`Worktop.Lifecycle.Add.Built.rollBack`).
-/

namespace Worktop

open Act World

variable {course : Nat → Turn} {w w' : World} {fs fs' : FileSystem} {setup : Setup}
  {branch : String}

namespace World

/-- The branch of each worktree exists. -/
def Complete (w : World) : Prop :=
  ∀ reg ∈ w.registrations, ∀ name ∈ reg.branch, name ∈ w.branches

instance (w : World) : Decidable w.Complete :=
  inferInstanceAs (Decidable (∀ reg ∈ w.registrations, ∀ name ∈ reg.branch, name ∈ w.branches))

theorem Complete.apart (complete : w.Complete) (absent : branch ∉ w.branches) :
    ∀ reg ∈ w.registrations, reg.branch ≠ some branch :=
  fun reg member taken => absent (complete reg member branch taken)

theorem withoutBranch_withBranch (absent : branch ∉ w.branches) :
    (w.withBranch branch).withoutBranch branch = w := by
  have kept : w.branches.filter (· ≠ branch) = w.branches :=
    congrArg World.branches (withoutBranch_of_absent absent)
  unfold withBranch withoutBranch
  simp only [List.filter_append, kept]
  simp

theorem withoutWorktree_withWorktree {path : String}
    (apart : ∀ reg ∈ w.registrations, reg.path ≠ path) :
    (w.withWorktree branch path).withoutWorktree path = w.withBranch branch := by
  have others : ∀ reg ∈ w.linked, reg.path ≠ path :=
    fun reg present => apart reg (List.mem_cons_of_mem _ present)
  have kept : w.linked.filter (·.path ≠ path) = w.linked :=
    congrArg World.linked (withoutWorktree_of_apart others)
  unfold withWorktree withoutWorktree withBranch
  simp only [List.filter_append, kept]
  simp

theorem withoutWindows_withWindow {window : OpenWindow}
    (closed : window.name ∉ w.windows.map (·.name)) :
    (w.withWindow window).withoutWindows window.name = w := by
  have kept : w.windows.filter (·.name ≠ window.name) = w.windows :=
    congrArg World.windows (withoutWindows_of_closed closed)
  unfold withWindow withoutWindows
  simp only [List.filter_append, kept]
  simp

theorem Sound.withWorktree (sound : w.Sound) {path : String} (pathLine : Text.SingleLine path)
    (branchLine : Text.SingleLine branch) (apart : ∀ reg ∈ w.registrations, reg.path ≠ path) :
    (w.withWorktree branch path).Sound := by
  have cases : ∀ reg ∈ (w.withWorktree branch path).registrations,
      reg ∈ w.registrations ∨ reg = ⟨path, w.main.head, some branch⟩ := by
    intro reg member
    rcases List.mem_cons.mp member with rfl | linked
    · exact .inl List.mem_cons_self
    · rcases List.mem_append.mp linked with old | new
      · exact .inl (List.mem_cons_of_mem _ old)
      · exact .inr (List.mem_singleton.mp new)
  constructor
  · intro reg member
    rcases cases reg member with old | rfl
    · exact sound.paths reg old
    · exact pathLine
  · intro reg member
    rcases cases reg member with old | rfl
    · exact sound.heads reg old
    · exact sound.heads w.main List.mem_cons_self
  · intro reg member
    rcases cases reg member with old | rfl
    · exact sound.checkouts reg old
    · intro name taken
      cases taken
      exact branchLine
  · have distinct : (w.registrations.map (·.path) ++ [path]).Nodup := by
      rw [List.nodup_append]
      refine ⟨sound.distinctPaths, List.pairwise_singleton _ _, fun one member other same => ?_⟩
      obtain ⟨reg, present, rfl⟩ := List.mem_map.mp member
      rw [List.mem_singleton.mp same]
      exact apart reg present
    have paths : (w.withWorktree branch path).registrations.map (·.path) =
        w.registrations.map (·.path) ++ [path] := by
      simp [World.withWorktree, World.withBranch, World.registrations]
    rwa [paths]
  · exact sound.ids
  · exact sound.distinctIds
  · exact sound.names
  · exact sound.takes

theorem Sound.withWindow (sound : w.Sound) {window : OpenWindow}
    (nameLine : Text.OneLine window.name) (fresh : w.freshWindow window.id = true) :
    (w.withWindow window).Sound := by
  constructor
  · exact sound.paths
  · exact sound.heads
  · exact sound.checkouts
  · exact sound.distinctPaths
  · intro other member
    rcases List.mem_append.mp member with old | new
    · exact sound.ids other old
    · rw [List.mem_singleton.mp new]
      exact isId_of_freshWindow fresh
  · have distinct : (w.windows.map (·.id) ++ [window.id]).Nodup := by
      rw [List.nodup_append]
      refine ⟨sound.distinctIds, List.pairwise_singleton _ _, fun one member other same => ?_⟩
      obtain ⟨old, present, rfl⟩ := List.mem_map.mp member
      rw [List.mem_singleton.mp same]
      exact ne_of_freshWindow fresh old present
    rwa [← List.map_singleton, ← List.map_append] at distinct
  · intro other member
    rcases List.mem_append.mp member with old | new
    · exact sound.names other old
    · rwa [List.mem_singleton.mp new]
  · exact sound.takes

end World

/-- A worktree that is removed takes with it what was put in its place, and all else is as it
was. -/
theorem LeftByHooks.without {regs : List Registration} {path : String} {place : List String}
    (rooted : fs.Rooted) (located : fs.locate path = .ok place) (empty : fs.node? place = none)
    (left : LeftByHooks course regs (fs.put place .directory) fs') :
    LeftByHooks course regs fs (fs'.without (FileSystem.meant fs'.here path)) := by
  have ne : place ≠ [] := by
    intro root
    rw [root] at empty
    cases empty
  have same : FileSystem.meant fs'.here path = place := by
    rw [left.here, FileSystem.here_put]
    exact (FileSystem.locate_ok_iff.mp located).1.symm
  have restored := rooted.node?_put_without empty .directory
  rw [same]
  refine ⟨left.here, fun reg member => ?_, fun other spares => ?_⟩
  · have here : fs.here = ((fs.put place .directory).without place).here := rfl
    have before := FileSystem.pathExists_congr here (fun p => (restored p).symm) reg.path
    rw [before, Bool.eq_iff_iff, FileSystem.pathExists_without_iff ne,
      FileSystem.pathExists_without_iff ne, left.worktrees reg member, left.here]
  · rw [← restored other]
    by_cases below : place <+: other
    · rw [FileSystem.node?_without_below ne below, FileSystem.node?_without_below ne below]
    · rw [FileSystem.node?_without_of_not_below below, FileSystem.node?_without_of_not_below below,
        left.spared other spares]

namespace Lifecycle.Add

/-- Nothing is in the way of the workspace of a branch in a world, and its names stand on one
line. -/
structure Vacant (setup : Setup) (branch : String) (w : World) : Prop where
  tmux : setup.mux.kind = .tmux
  sound : w.Sound
  complete : w.Complete
  absent : branch ∉ w.branches
  closed : (setup.workspace branch).windowName ∉ w.windows.map (·.name)
  branchLine : Text.SingleLine branch
  pathLine : Text.SingleLine (setup.repository.worktreePath branch)
  nameLine : Text.OneLine (setup.workspace branch).windowName

/-- The files before the worktree of a branch is made, but for a directory that may have been made
for worktrees. -/
def Early (setup : Setup) (fs files : FileSystem) : Prop :=
  files = fs ∨ files = (fs.makeDirectories setup.repository.base).2

/-- The files are as they were before the worktree of a branch was made, but for what hooks did to
others. -/
def Restored (setup : Setup) (course : Nat → Turn) (branch : String) (w : World)
    (fs files : FileSystem) : Prop :=
  ∃ early, Early setup fs early ∧ LeftByHooks course
    (w.withWorktree branch (setup.repository.worktreePath branch)).registrations early files

/-- The worktree of a branch is in its place among the files. -/
def Planted (setup : Setup) (course : Nat → Turn) (branch : String) (w : World)
    (fs files : FileSystem) : Prop :=
  (∀ reg ∈ w.registrations, reg.path ≠ setup.repository.worktreePath branch) ∧
    ∃ place, setup.repository.Plot fs branch place ∧
      LeftByHooks course
        (w.withWorktree branch (setup.repository.worktreePath branch)).registrations
        ((fs.makeDirectories setup.repository.base).2.put place .directory) files

theorem Planted.stands (planted : Planted setup course branch w fs fs') :
    fs'.pathExists (setup.repository.worktreePath branch) = true := by
  obtain ⟨-, place, plot, left⟩ := planted
  have new : (⟨setup.repository.worktreePath branch, w.main.head, some branch⟩ : Registration) ∈
      (w.withWorktree branch (setup.repository.worktreePath branch)).registrations :=
    List.mem_cons_of_mem _ (List.mem_append_right _ List.mem_cons_self)
  rw [left.worktrees _ new]
  exact FileSystem.pathExists_put plot.1 plot.2 _

/-- The window of a branch is there beside its worktree, and has some panes. -/
def Opened (setup : Setup) (branch : String) (w : World) (panes : List String) (w' : World) :
    Prop :=
  ∃ id, w.freshWindow id = true ∧ (∀ pane ∈ panes, ∀ window ∈ w.windows, pane ∉ window.panes) ∧
    panes.Nodup ∧
    w' = (w.withWorktree branch (setup.repository.worktreePath branch)).withWindow
      { id, name := (setup.workspace branch).windowName, panes }

/-- What is noted once a branch and its worktree are made. -/
def noted (setup : Setup) (branch : String) : List Resource :=
  [.branch branch, .worktree branch (setup.repository.worktreePath branch)]

/-- What is noted once the window is made as well. -/
def notedPanes (setup : Setup) (branch : String) (panes : List String) : List Resource :=
  noted setup branch ++ .window (setup.workspace branch).windowName ::
    panes.map (.pane (setup.workspace branch).windowName)

/-- How far an addition to a world has come: what it has noted is what it has made. -/
inductive Built (setup : Setup) (course : Nat → Turn) (branch : String) (w : World)
    (fs : FileSystem) : List Resource → World → FileSystem → Prop where
  | nothing {files : FileSystem} (early : Early setup fs files) :
    Built setup course branch w fs [] w files
  | branch {files : FileSystem} (early : Early setup fs files) :
    Built setup course branch w fs [.branch branch] (w.withBranch branch) files
  | worktree {files : FileSystem} (planted : Planted setup course branch w fs files) :
    Built setup course branch w fs (noted setup branch)
      (w.withWorktree branch (setup.repository.worktreePath branch)) files
  | window {files : FileSystem} {panes : List String} {w' : World}
    (opened : Opened setup branch w panes w') (planted : Planted setup course branch w fs files) :
    Built setup course branch w fs (notedPanes setup branch panes) w' files

/-! ## Rolling back -/

theorem rollBack_nil : Tells (rollBack setup [] : Act Scene _) course w fs ([], []) :=
  tells_pure _

/-- What can be undone is reported as removed. -/
theorem rollBack_cons {resource : Resource} {rest : List Resource} {w1 w2 : World}
    {fs1 fs2 : FileSystem}
    (undone : Ends (undo setup resource : ExceptT Cause (Act Scene) Unit).run course w fs (.ok ())
      w1 fs1)
    (others : Ends (rollBack setup rest : Act Scene _) course w1 fs1 (rest, []) w2 fs2) :
    Ends (rollBack setup (resource :: rest) : Act Scene _) course w fs (resource :: rest, []) w2
      fs2 := by
  unfold rollBack
  refine undone.bind ?_
  refine others.bind ?_
  exact tells_pure _

theorem undo_branch_ends (vacant : Vacant setup branch w) :
    Ends (undo setup (.branch branch) : ExceptT Cause (Act Scene) Unit).run course
      (w.withBranch branch) fs (.ok ()) w fs := by
  have present : branch ∈ (w.withBranch branch).branches :=
    List.mem_append_right _ List.mem_cons_self
  have deletes : Ends (setup.repository.deleteBranch branch true : Worktree.Result Scene Unit).run
      course (w.withBranch branch) fs (.ok ()) ((w.withBranch branch).withoutBranch branch) fs :=
    setup.repository.deleteBranch_ends present (vacant.complete.apart vacant.absent) true
  rw [withoutBranch_withBranch vacant.absent] at deletes
  exact deletes.lift_bind (tells_ok ())

theorem undo_worktree_ends (vacant : Vacant setup branch w)
    (planted : Planted setup course branch w fs fs') :
    Ends (undo setup (.worktree branch (setup.repository.worktreePath branch)) :
      ExceptT Cause (Act Scene) Unit).run course
      (w.withWorktree branch (setup.repository.worktreePath branch)) fs' (.ok ())
      (w.withBranch branch)
      (fs'.without (FileSystem.meant fs'.here (setup.repository.worktreePath branch))) := by
  have apart := planted.1
  have linked : (w.withWorktree branch (setup.repository.worktreePath branch)).linkedTo? branch =
      some ⟨setup.repository.worktreePath branch, w.main.head, some branch⟩ := by
    have others : w.linked.find? (·.branch = some branch) = none := by
      rw [List.find?_eq_none]
      intro reg member taken
      exact vacant.complete.apart vacant.absent reg (List.mem_cons_of_mem _ member)
        (of_decide_eq_true taken)
    unfold linkedTo? withWorktree
    rw [List.find?_append, others]
    simp
  have mainApart : w.main.branch ≠ some branch :=
    vacant.complete.apart vacant.absent w.main List.mem_cons_self
  have removes : Ends (setup.repository.remove branch true : Worktree.Result Scene Unit).run course
      (w.withWorktree branch (setup.repository.worktreePath branch)) fs' (.ok ()) _ _ :=
    setup.repository.remove_ends (vacant.sound.withWorktree vacant.pathLine vacant.branchLine apart)
      mainApart linked planted.stands true
  rw [withoutWorktree_withWorktree apart] at removes
  exact removes.lift_bind (tells_ok ())

theorem undo_window_ends {panes : List String} (vacant : Vacant setup branch w)
    (apart : ∀ reg ∈ w.registrations, reg.path ≠ setup.repository.worktreePath branch)
    (opened : Opened setup branch w panes w') :
    Ends (undo setup (.window (setup.workspace branch).windowName) :
      ExceptT Cause (Act Scene) Unit).run course w' fs (.ok ())
      (w.withWorktree branch (setup.repository.worktreePath branch)) fs := by
  obtain ⟨id, fresh, -, -, rfl⟩ := opened
  have planted := vacant.sound.withWorktree vacant.pathLine vacant.branchLine apart
  have sound : ((w.withWorktree branch (setup.repository.worktreePath branch)).withWindow
      { id, name := (setup.workspace branch).windowName, panes }).Sound :=
    planted.withWindow vacant.nameLine fresh
  have restored : ((w.withWorktree branch (setup.repository.worktreePath branch)).withWindow
      { id, name := (setup.workspace branch).windowName, panes }).withoutWindows
        (setup.workspace branch).windowName =
          w.withWorktree branch (setup.repository.worktreePath branch) :=
    withoutWindows_withWindow vacant.closed
  have destroys : Ends (setup.mux.destroyWindow (setup.workspace branch).windowName :
      Mux.Result Scene Unit).run course _ fs (.ok ()) _ fs :=
    Multiplexer.destroyWindow_ends vacant.tmux sound
      (List.mem_map.mpr ⟨_, List.mem_append_right _ List.mem_cons_self, rfl⟩)
  rw [restored] at destroys
  exact destroys.lift_bind (tells_ok ())

theorem undoOrder_notedPanes (panes : List String) :
    undoOrder (notedPanes setup branch panes) =
      [.window (setup.workspace branch).windowName,
        .worktree branch (setup.repository.worktreePath branch), .branch branch] := by
  have panes_left : (panes.map (Resource.pane (setup.workspace branch).windowName)).reverse.filter
      (·.pane?.isNone) = [] := by
    rw [List.filter_eq_nil_iff]
    intro resource member
    obtain ⟨pane, -, rfl⟩ := List.mem_map.mp (List.mem_reverse.mp member)
    exact Bool.false_ne_true
  unfold undoOrder notedPanes noted
  simp only [List.reverse_append, List.reverse_cons, List.filter_append, panes_left]
  rfl

/-- Wherever an addition has come to, what it has noted can all be removed again, and leaves the
world as it was before. -/
theorem Built.rollBack {created : List Resource} (vacant : Vacant setup branch w)
    (rooted : fs.Rooted) (built : Built setup course branch w fs created w' fs') :
    Leads (Add.rollBack setup (undoOrder created) : Act Scene _) course w' fs'
      fun result left files => result = (undoOrder created, []) ∧ left = w ∧
        Restored setup course branch w fs files := by
  -- What was made last is undone first, so each stage goes on as the stage before it does.
  have branch_ends : ∀ files, Ends (Add.rollBack setup [.branch branch] : Act Scene _) course
      (w.withBranch branch) files ([.branch branch], []) w files :=
    fun files => rollBack_cons (undo_branch_ends vacant) rollBack_nil
  have worktree_ends : ∀ files, Planted setup course branch w fs files →
      Ends (Add.rollBack setup
        [.worktree branch (setup.repository.worktreePath branch), .branch branch] : Act Scene _)
        course (w.withWorktree branch (setup.repository.worktreePath branch)) files
        ([.worktree branch (setup.repository.worktreePath branch), .branch branch], []) w
        (files.without (FileSystem.meant files.here (setup.repository.worktreePath branch))) :=
    fun files planted => rollBack_cons (undo_worktree_ends vacant planted) (branch_ends _)
  have restored : ∀ files, Planted setup course branch w fs files →
      Restored setup course branch w fs
        (files.without (FileSystem.meant files.here (setup.repository.worktreePath branch))) := by
    intro files planted
    obtain ⟨-, place, plot, left⟩ := planted
    exact ⟨_, .inr rfl, left.without (rooted.makeDirectories _) plot.1 plot.2⟩
  cases built with
  | nothing early =>
    apply rollBack_nil.mono
    intro result left files ⟨same, world, kept⟩
    exact ⟨same, world, _, early, kept ▸ .refl _ _⟩
  | branch early =>
    apply (branch_ends _).mono
    intro result left files ⟨same, world, kept⟩
    exact ⟨same, world, _, early, kept ▸ .refl _ _⟩
  | worktree planted =>
    apply (worktree_ends _ planted).mono
    intro result left files ⟨same, world, removed⟩
    exact ⟨same, world, removed ▸ restored _ planted⟩
  | window opened planted =>
    rw [undoOrder_notedPanes]
    have ends := rollBack_cons (undo_window_ends vacant planted.1 opened) (worktree_ends _ planted)
    apply ends.mono
    intro result left files ⟨same, world, removed⟩
    exact ⟨same, world, removed ▸ restored _ planted⟩

end Lifecycle.Add

end Worktop

import Worktop.Proofs.Answers
import Worktop.Proofs.FileSystem

/-! # Taking a workspace apart in a world

What each removal leaves of a sound world: `Worktop.Multiplexer.destroyWindow_ends` leaves no window
of a name, `Worktop.Repository.remove_ends` no worktree of a branch, and
`Worktop.Repository.deleteBranch_ends` no branch of a name.
-/

namespace Worktop

open Act World

variable {course : Nat → Turn} {w : World} {fs : FileSystem}

namespace World

/-- The world without the windows of a name. -/
def withoutWindows (w : World) (name : String) : World :=
  { w with windows := w.windows.filter (·.name ≠ name) }

/-- The world without the worktree at a path. -/
def withoutWorktree (w : World) (path : String) : World :=
  { w with linked := w.linked.filter (·.path ≠ path) }

/-- The world without the worktrees whose directories are gone. -/
def pruned (w : World) (fs : FileSystem) : World :=
  { w with linked := w.linked.filter (fs.pathExists ·.path) }

/-- The world without a branch. -/
def withoutBranch (w : World) (branch : String) : World :=
  { w with branches := w.branches.filter (· ≠ branch) }

theorem withoutWindows_of_closed {name : String} (closed : name ∉ w.windows.map (·.name)) :
    w.withoutWindows name = w := by
  have kept : w.windows.filter (·.name ≠ name) = w.windows := by
    rw [List.filter_eq_self]
    intro window present
    exact decide_eq_true fun named => closed (List.mem_map.mpr ⟨window, present, named⟩)
  unfold withoutWindows
  rw [kept]

theorem withoutWorktree_of_apart {path : String} (apart : ∀ reg ∈ w.linked, reg.path ≠ path) :
    w.withoutWorktree path = w := by
  have kept : w.linked.filter (·.path ≠ path) = w.linked := by
    rw [List.filter_eq_self]
    intro reg present
    exact decide_eq_true (apart reg present)
  unfold withoutWorktree
  rw [kept]

theorem withoutBranch_of_absent {branch : String} (absent : branch ∉ w.branches) :
    w.withoutBranch branch = w := by
  have kept : w.branches.filter (· ≠ branch) = w.branches := by
    rw [List.filter_eq_self]
    intro other present
    exact decide_eq_true fun same => absent (same ▸ present)
  unfold withoutBranch
  rw [kept]

/-- Where no value is taken on twice, what takes on the same value is the same. -/
theorem eq_of_shared {α β : Type} {f : α → Option β} {l : List α}
    (distinct : (l.filterMap f).Nodup) {first second : α} (one : first ∈ l) (other : second ∈ l)
    {b : β} (firstTakes : f first = some b) (secondTakes : f second = some b) : first = second := by
  let Shared (x y : α) : Prop := f x = some b → f y = some b → x = y
  have apart := List.pairwise_filterMap.mp distinct
  have forward : l.Pairwise Shared := by
    apply apart.imp
    intro x y differ left right
    exact absurd rfl (differ b left b right)
  have backward : l.Pairwise (flip Shared) := by
    apply apart.imp
    intro x y differ right left
    exact absurd rfl (differ b left b right)
  exact List.Pairwise.forall_of_forall_of_flip (R := Shared) (fun _ _ _ _ => rfl) forward backward
    one other firstTakes secondTakes

/-- Two windows of a sound world with the same id are one. -/
theorem Sound.eq_of_id (sound : w.Sound) {first second : OpenWindow} (one : first ∈ w.windows)
    (other : second ∈ w.windows) (same : first.id = second.id) : first = second := by
  have distinct := sound.distinctIds
  rw [← List.filterMap_eq_map] at distinct
  exact eq_of_shared distinct one other rfl (congrArg some same.symm)

/-- Two worktrees of a sound world at the same path are one. -/
theorem Sound.eq_of_path (sound : w.Sound) {first second : Registration}
    (one : first ∈ w.registrations) (other : second ∈ w.registrations)
    (same : first.path = second.path) : first = second := by
  have distinct := sound.distinctPaths
  rw [← List.filterMap_eq_map] at distinct
  exact eq_of_shared distinct one other rfl (congrArg some same.symm)

/-- A world with less in it is as sound. -/
theorem Sound.of_sublist {less : World} (sound : w.Sound) (main : less.main = w.main)
    (linked : less.linked.Sublist w.linked) (windows : less.windows.Sublist w.windows)
    (takes : less.takes = w.takes) : less.Sound := by
  have registrations : less.registrations.Sublist w.registrations := by
    unfold World.registrations
    rw [main]
    exact linked.cons_cons _
  constructor
  · exact fun reg member => sound.paths reg (registrations.subset member)
  · exact fun reg member => sound.heads reg (registrations.subset member)
  · exact fun reg member => sound.checkouts reg (registrations.subset member)
  · exact sound.distinctPaths.sublist (registrations.map _)
  · exact fun window member => sound.ids window (windows.subset member)
  · exact sound.distinctIds.sublist (windows.map _)
  · exact fun window member => sound.names window (windows.subset member)
  · exact fun name taken => sound.takes name (by rwa [← takes])

theorem Sound.withoutWindows (sound : w.Sound) (name : String) : (w.withoutWindows name).Sound :=
  sound.of_sublist rfl (List.Sublist.refl _) List.filter_sublist rfl

/-- To take away the windows of a name is to take away those with the ids of the name. -/
theorem Sound.withoutWindows_eq (sound : w.Sound) (name : String) :
    w.withoutWindows name = { w with
      windows := w.windows.filter (·.id ∉ (w.windows.filter (·.name = name)).map (·.id)) } := by
  unfold World.withoutWindows
  congr 1
  apply List.filter_congr
  intro window member
  rw [decide_eq_decide]
  apply not_congr
  constructor
  · intro named
    exact List.mem_map.mpr ⟨window, List.mem_filter.mpr ⟨member, decide_eq_true named⟩, rfl⟩
  · intro listed
    obtain ⟨other, inFilter, same⟩ := List.mem_map.mp listed
    obtain ⟨present, named⟩ := List.mem_filter.mp inFilter
    rw [← sound.eq_of_id present member same]
    exact of_decide_eq_true named

end World

/-! ## Windows -/

namespace Mux.Tmux

variable (socket : Option String)

theorem killWindows_ends {ids : List String} (distinct : ids.Nodup)
    (listed : ∀ id ∈ ids, id ∈ w.windows.map (·.id)) :
    Ends (killWindows socket ids : Result Scene Unit).run course w fs (.ok ())
      { w with windows := w.windows.filter (·.id ∉ ids) } fs := by
  induction ids generalizing w with
  | nil =>
    have all : w.windows.filter (·.id ∉ []) = w.windows := by
      simp
    rw [all]
    exact tells_ok ()
  | cons id rest ih =>
    obtain ⟨absent, distinct⟩ := List.nodup_cons.mp distinct
    have killed : ∀ turn, w.respond turn fs
        (.ofCommand (command socket ["kill-window", "-t", id])) =
          (.done, { w with windows := w.windows.filter (·.id ≠ id) }, fs) := by
      intro turn
      have stands : w.windows.any (·.id = id) = true := by
        simpa using listed id List.mem_cons_self
      have asks : w.respond turn fs (.ofCommand (command socket ["kill-window", "-t", id])) =
          ((w.killWindow id).1, (w.killWindow id).2, fs) := by
        cases socket <;> rfl
      rw [asks, killWindow, if_pos stands]
    -- No id is killed twice, so the others are still there once this window is gone.
    have still : ∀ other ∈ rest, other ∈ (w.windows.filter (·.id ≠ id)).map (·.id) := by
      intro other member
      obtain ⟨window, present, rfl⟩ :=
        List.mem_map.mp (listed other (List.mem_cons_of_mem _ member))
      have kept : window.id ≠ id := fun same => absent (same ▸ member)
      exact List.mem_map.mpr ⟨window, List.mem_filter.mpr ⟨present, decide_eq_true kept⟩, rfl⟩
    have rest_killed := ih (w := { w with windows := w.windows.filter (·.id ≠ id) }) distinct still
    have both : (w.windows.filter (·.id ≠ id)).filter (·.id ∉ rest) =
        w.windows.filter (·.id ∉ id :: rest) := by
      rw [List.filter_filter]
      apply List.filter_congr
      intro window _
      simp only [ne_eq, List.mem_cons, not_or, decide_not, Bool.decide_and, Bool.and_comm]
    rw [both] at rest_killed
    exact (run_ends killed).andThen rest_killed

/-- All windows of a name are killed. -/
theorem destroyWindow_ends (sound : w.Sound) {name : String}
    (opened : name ∈ w.windows.map (·.name)) :
    Ends (destroyWindow socket name : Result Scene Unit).run course w fs (.ok ())
      (w.withoutWindows name) fs := by
  obtain ⟨window, present, named⟩ := List.mem_map.mp opened
  have own : window ∈ w.windows.filter (·.name = name) :=
    List.mem_filter.mpr ⟨present, decide_eq_true named⟩
  have some_id : (((w.windows.filter (·.name = name)).map (·.id)).isEmpty) = false := by
    rw [List.isEmpty_map, List.isEmpty_eq_false_iff]
    exact List.ne_nil_of_mem own
  have distinct : ((w.windows.filter (·.name = name)).map (·.id)).Nodup :=
    sound.distinctIds.sublist (List.filter_sublist.map _)
  have listed : ∀ id ∈ (w.windows.filter (·.name = name)).map (·.id), id ∈ w.windows.map (·.id) :=
    fun id member => (List.filter_sublist.map _).subset member
  refine (windowIds_tells socket sound name).andThen ?_
  rw [some_id, sound.withoutWindows_eq]
  exact killWindows_ends socket distinct listed

end Mux.Tmux

namespace Multiplexer

variable {m : Multiplexer}

theorem destroyWindow_ends (tmux : m.kind = .tmux) (sound : w.Sound) {name : String}
    (opened : name ∈ w.windows.map (·.name)) :
    Ends (m.destroyWindow name : Mux.Result Scene Unit).run course w fs (.ok ())
      (w.withoutWindows name) fs := by
  rw [eq_of_tmux tmux]
  exact Mux.Tmux.destroyWindow_ends m.socket sound opened

end Multiplexer

/-! ## Worktrees and branches -/

namespace Repository

variable (r : Repository) {branch : String}

theorem prune_ends :
    Ends (r.prune : Worktree.Result Scene Unit).run course w fs (.ok ()) (w.pruned fs) fs := by
  refine (Worktree.ends_exec fun _ => rfl).andThen ?_
  exact tells_ok ()

/-- The worktree of a branch is removed, with its directory. -/
theorem remove_ends (sound : w.Sound) (apart : w.main.branch ≠ some branch) {reg : Registration}
    (linked : w.linkedTo? branch = some reg) (stands : fs.pathExists reg.path = true)
    (force : Bool) :
    Ends (r.remove branch force : Worktree.Result Scene Unit).run course w fs (.ok ())
      (w.withoutWorktree reg.path) (fs.without (FileSystem.meant fs.here reg.path)) := by
  have registered : w.linked.any (·.path = reg.path) = true :=
    List.any_eq_true.mpr ⟨reg, List.mem_of_find?_eq_some linked, decide_eq_true rfl⟩
  have removes : w.removeWorktree fs reg.path = (.done, w.withoutWorktree reg.path,
      fs.without (FileSystem.meant fs.here reg.path)) := by
    rw [removeWorktree, FileSystem.remove_of_pathExists stands]
    exact if_pos registered
  have answers : ∀ turn, w.respond turn fs (.ofCommand (r.git (["worktree", "remove"] ++
      (if force then ["--force"] else []) ++ [reg.path]))) = (.done, w.withoutWorktree reg.path,
        fs.without (FileSystem.meant fs.here reg.path)) := by
    intro turn
    rw [← removes]
    cases force <;> rfl
  refine (r.findWorktree_tells sound apart).andThen ?_
  rw [linked]
  refine Ends.lift_bind (tells_pathExists reg.path) ?_
  rw [if_pos stands]
  exact (Worktree.ends_exec answers).andThen (tells_ok ())

/-- Where the directory of a worktree is gone, all such worktrees are forgotten. -/
theorem remove_prunes (sound : w.Sound) (apart : w.main.branch ≠ some branch) {reg : Registration}
    (linked : w.linkedTo? branch = some reg) (gone : ¬ fs.pathExists reg.path = true)
    (force : Bool) :
    Ends (r.remove branch force : Worktree.Result Scene Unit).run course w fs (.ok ())
      (w.pruned fs) fs := by
  refine (r.findWorktree_tells sound apart).andThen ?_
  rw [linked]
  refine Ends.lift_bind (tells_pathExists reg.path) ?_
  rw [if_neg gone]
  exact r.prune_ends

/-- A branch that is checked out nowhere is deleted. -/
theorem deleteBranch_ends (present : branch ∈ w.branches)
    (free : ∀ reg ∈ w.registrations, reg.branch ≠ some branch) (force : Bool) :
    Ends (r.deleteBranch branch force : Worktree.Result Scene Unit).run course w fs (.ok ())
      (w.withoutBranch branch) fs := by
  have unused : ¬ w.registrations.any (·.branch = some branch) = true := by
    simpa using free
  have deletes : w.deleteBranch branch =
      (.done ("Deleted branch " ++ branch ++ ".\n"), w.withoutBranch branch) := by
    rw [World.deleteBranch, if_neg unused, if_pos present]
    rfl
  have answers : ∀ turn, w.respond turn fs
      (.ofCommand (r.git ["branch", if force then "-D" else "-d", branch])) =
        (.done ("Deleted branch " ++ branch ++ ".\n"), w.withoutBranch branch, fs) := by
    intro turn
    have asks : w.respond turn fs
        (.ofCommand (r.git ["branch", if force then "-D" else "-d", branch])) =
          ((w.deleteBranch branch).1, (w.deleteBranch branch).2, fs) := by
      cases force <;> rfl
    rw [asks, deletes]
  refine (r.branchExists_tells branch).andThen ?_
  rw [decide_eq_true present]
  exact (Worktree.ends_exec answers).andThen (tells_ok ())

end Repository

end Worktop

import Worktop.Proofs.Branch.Handle
import Worktop.Proofs.Custody
import Worktop.Proofs.Rejection

/-! # What is named after a branch stays in its place

Whatever a branch is called, its handle is a name in a path, so what is put under a directory by
this name is a child of the directory (`Worktop.Path.isChild_join`): the worktree of a branch is
one, and so is its lock file, which is all that an acquisition opens
(`Worktop.Locks.acquire_contained`). In the name of a window all is harmless but the prefix. Main
statement: `Worktop.Branch.identities_contained`.
-/

namespace Worktop

/-! ## Children of a directory -/

/-- A path is a directory and one name more, however the two are looked at. -/
structure Path.IsChild (directory path child : String) : Prop where
  components : components path = components directory ++ [.name child]
  above : ∃ above, parent? path = some above ∧ Path.components above = Path.components directory
  name : name? path = some child
  meant : ∀ here, FileSystem.meant here path = FileSystem.meant here directory ++ [child]

theorem Path.isChild_join (directory : String) {child : String} (named : IsName child) :
    IsChild directory (join directory child) child where
  components := components_join directory named
  above := parent?_of_components (components_join directory named) nofun
  name := name?_of_components (components_join directory named)
  meant := fun here => FileSystem.meant_join here directory named

/-- An acquisition leaves all files alone but the lock file of the branch, and this is the file of
the guard that it gives. -/
theorem Custody.Acquired.contained {c c' : Custody} {table : LockTable}
    {branch directory : String} {answer : Except LockError Guard}
    (acquired : c.Acquired table branch answer c') (filed : table.directory = some directory) :
    let place := FileSystem.lockPlace c.files.here directory (Branch.handle branch)
    (∀ other, other ≠ place → c'.files.fileId? other = c.files.fileId? other) ∧
      ∀ guard, answer = .ok guard →
        ∃ id, guard.file = some id ∧ c'.files.fileId? place = some id := by
  cases acquired with
  | listed taken => exact ⟨fun _ _ => rfl, nofun⟩
  | unfiled free bare =>
    rw [filed] at bare
    cases bare
  | unopened shut widens => exact ⟨fun other _ => widens.fileId? other, nofun⟩
  | contended known opened taken =>
    cases filed.symm.trans known
    exact ⟨fun _ => (FileSystem.opened_lock opened).others, nofun⟩
  | filed free known opened untaken =>
    cases filed.symm.trans known
    refine ⟨fun _ => (FileSystem.opened_lock opened).others, fun guard same => ?_⟩
    cases same
    exact ⟨_, rfl, (FileSystem.opened_lock opened).self⟩

/-! ## Names of windows -/

theorem Config.prefix_of_validate {config : Config} (valid : config.validate = .ok ()) :
    ':' ∉ config.windowPrefix.toList ∧ '.' ∉ config.windowPrefix.toList := by
  have fit : ¬ config.Unfit := by
    intro unfit
    obtain ⟨e, refused⟩ := validate_of_unfit unfit
    cases valid.symm.trans refused
  exact ⟨fun colon => fit (.inr (.inr (.inr (.inl colon)))),
    fun stop => fit (.inr (.inr (.inr (.inr stop))))⟩

namespace Branch

/-- What cannot be in a handle is in the name of a window only if it is in the prefix. -/
theorem mem_windowPrefix {windowPrefix branch : String} {c : Char}
    (foreign : ¬ (isPlainChar c = true ∨ c = '+'))
    (member : c ∈ (Workspace.windowNameOf windowPrefix branch).toList) :
    c ∈ windowPrefix.toList := by
  rw [Workspace.windowNameOf, String.toList_append] at member
  obtain front | inside := List.mem_append.mp member
  · exact front
  · exact absurd (handle_safe inside) foreign

/-- **What is named after a branch stays in its place.** Whatever the branch is called, its handle is
not empty and made of plain characters and `+`; its worktree is a child, named by the handle, of the
directory for worktrees; its lock file is a child of the lock directory, and all that an acquisition
opens. The name of its window has no colon and no full stop in it if the prefix is valid, and a
blank only if the prefix has it. -/
theorem identities_contained :
    (∀ branch, handle branch ≠ "" ∧
      ∀ c ∈ (handle branch).toList, isPlainChar c = true ∨ c = '+') ∧
    (∀ base branch, Path.IsChild base (Workspace.worktreePathOf base branch) (handle branch)) ∧
    (∀ directory branch, Path.IsChild directory
      (Path.join directory (handle branch ++ ".lock")) (handle branch ++ ".lock")) ∧
    (∀ (locks : Locks) (fs : FileSystem) (table : LockTable) (directory branch : String),
      table.directory = some directory →
        let place := FileSystem.meant fs.here directory ++ [handle branch ++ ".lock"]
        let asked := locks.acquire fs table branch
        (∀ other, other ≠ place → asked.2.2.fileId? other = fs.fileId? other) ∧
          ∀ guard, asked.1 = .ok guard →
            ∃ id, guard.file = some id ∧ asked.2.2.fileId? place = some id) ∧
    (∀ (config : Config) branch, config.validate = .ok () →
      ':' ∉ (Workspace.windowNameOf config.windowPrefix branch).toList ∧
        '.' ∉ (Workspace.windowNameOf config.windowPrefix branch).toList) ∧
    ∀ windowPrefix branch c, Text.isBlank c = true →
      c ∈ (Workspace.windowNameOf windowPrefix branch).toList → c ∈ windowPrefix.toList := by
  refine ⟨fun branch => ⟨(isName_handle branch).filled, fun _ => handle_safe⟩,
    fun base branch => Path.isChild_join base (isName_handle branch),
    fun directory branch => Path.isChild_join directory (isName_lock branch),
    fun locks fs table directory branch filed => ?_, fun config branch valid => ?_,
    fun windowPrefix branch c blank => ?_⟩
  · have acquired := ({ locks, files := fs } : Custody).acquired table branch
    have contained := acquired.contained filed
    rw [Custody.acquire_fst, Custody.acquire_files] at contained
    exact contained
  · obtain ⟨colon, stop⟩ := Config.prefix_of_validate valid
    exact ⟨fun member => colon (mem_windowPrefix (by decide) member),
      fun member => stop (mem_windowPrefix (by decide) member)⟩
  · apply mem_windowPrefix
    rintro (plain | rfl)
    · rw [not_blank_of_plain plain] at blank
      cases blank
    · revert blank
      decide

end Branch

end Worktop

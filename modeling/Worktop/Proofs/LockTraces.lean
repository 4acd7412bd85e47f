import Worktop.Proofs.LockFile

/-! # What a lock leaves among the files

Taking a lock may make directories, and then one empty file. The directories are those that the path
of the lock directory, or a path above it, means (`Worktop.FileSystem.Paved`); the file is the lock
file of the branch. Nothing that stood before is touched (`Worktop.Locks.traces_acquire`).
-/

namespace Worktop

namespace FileSystem

variable {fs fs' fs'' : FileSystem}

/-- All that is new are directories that some of the paths mean. -/
structure Paved (fs : FileSystem) (paths : List String) (fs' : FileSystem) : Prop where
  here : fs'.here = fs.here
  nextId : fs'.nextId = fs.nextId
  node : ∀ place, fs'.node? place = fs.node? place ∨
    fs.node? place = none ∧ fs'.node? place = some .directory ∧
      ∃ path ∈ paths, place = meant fs.here path

theorem Paved.refl (fs : FileSystem) (paths : List String) : fs.Paved paths fs :=
  ⟨rfl, rfl, fun _ => .inl rfl⟩

theorem Paved.of_subset {fewer paths : List String} (paved : fs.Paved fewer fs')
    (subset : fewer ⊆ paths) : fs.Paved paths fs' where
  here := paved.here
  nextId := paved.nextId
  node := by
    intro place
    obtain same | ⟨empty, directory, path, member, means⟩ := paved.node place
    · exact .inl same
    · exact .inr ⟨empty, directory, path, subset member, means⟩

theorem descend_of_blank {place back : List String} (blank : ∀ segment ∈ back, segment = "") :
    descend place back = place := by
  induction back with
  | nil => rfl
  | cons segment rest ih =>
    obtain ⟨rfl, below⟩ := List.forall_mem_cons.mp blank
    exact ih below

/-- A directory is made at the place that its path means. -/
theorem makeDirectory_meant {path : String} (made : fs.makeDirectory path = .ok fs') :
    fs.node? (meant fs.here path) = none ∧ fs' = fs.put (meant fs.here path) .directory := by
  unfold makeDirectory at made
  dsimp only at made
  cases located : fs.locateSegments path
      ((Path.segments path).reverse.dropWhile (· = "")).reverse with
  | error e =>
    rw [located] at made
    cases made
  | ok place =>
    have walked : place = meant fs.here path := by
      unfold locateSegments at located
      split at located
      · cases located
      split at located
      · cases located
      split at located
      · cases located
      obtain ⟨back, whole, blank⟩ := segments_blank_tail path
      unfold meant
      rw [← whole, descend_append, descend_of_blank blank]
      exact (walk_ok_iff.mp located).1
    subst walked
    rw [located] at made
    cases stands : fs.node? (meant fs.here path) with
    | some node => simp [bind, Except.bind, stands] at made
    | none =>
      simp only [bind, Except.bind, stands, Except.ok.injEq] at made
      exact ⟨rfl, made.symm⟩

theorem Paved.makeDirectory {paths : List String} {path : String} (paved : fs.Paved paths fs')
    (member : path ∈ paths) (made : fs'.makeDirectory path = .ok fs'') : fs.Paved paths fs'' := by
  obtain ⟨empty, rfl⟩ := makeDirectory_meant made
  have ne : meant fs'.here path ≠ [] := by
    intro root
    rw [root] at empty
    cases empty
  refine ⟨paved.here, paved.nextId, fun place => ?_⟩
  by_cases same : place = meant fs'.here path
  · obtain stood | ⟨-, directory, -⟩ := paved.node place
    · rw [same] at stood
      rw [same, node?_put_self ne, ← stood]
      exact .inr ⟨empty, rfl, path, member, by rw [paved.here]⟩
    · rw [same, empty] at directory
      cases directory
  · rw [node?_put_of_ne same]
    exact paved.node place

theorem paved_makeAlong (paths : List String) (fs : FileSystem) :
    fs.Paved paths (makeAlong paths fs).2 := by
  induction paths with
  | nil => exact .refl fs _
  | cons path above ih =>
    have along : fs.Paved (path :: above) (makeAlong above fs).2 :=
      ih.of_subset (List.subset_cons_self path above)
    unfold makeAlong
    split
    · exact .refl fs _
    · split
      · rename_i made
        exact (Paved.refl fs _).makeDirectory List.mem_cons_self made
      · split
        · rename_i same
          rw [same] at along
          exact along
        · rename_i same
          rw [same] at along
          split
          · rename_i made
            exact along.makeDirectory List.mem_cons_self made
          · exact along
      · exact .refl fs _

end FileSystem

open FileSystem (lockPlace meant)

/-- All that the lock of a branch may have left among the files: the lock directory with those above
it, and an empty lock file. -/
structure LockTraces (table : LockTable) (branch : String) (fs fs' : FileSystem) : Prop where
  bare : table.directory = none → fs' = fs
  here : fs'.here = fs.here
  node : ∀ place, fs'.node? place = fs.node? place ∨
    fs.node? place = none ∧ ∃ directory ∈ table.directory,
      (fs'.node? place = some .directory ∧
        ∃ path ∈ directory :: Path.parents directory, place = meant fs.here path) ∨
      fs'.node? place = some (.file fs.nextId []) ∧
        place = lockPlace fs.here directory (Branch.handle branch)

namespace LockTraces

variable {table : LockTable} {branch directory : String} {fs fs' : FileSystem}

theorem refl (table : LockTable) (branch : String) (fs : FileSystem) :
    LockTraces table branch fs fs :=
  ⟨fun _ => rfl, rfl, fun _ => .inl rfl⟩

theorem of_paved (filed : table.directory = some directory)
    (paved : fs.Paved (directory :: Path.parents directory) fs') :
    LockTraces table branch fs fs' where
  bare := by
    intro bare
    rw [filed] at bare
    cases bare
  here := paved.here
  node := by
    intro place
    obtain same | ⟨empty, made, means⟩ := paved.node place
    · exact .inl same
    · exact .inr ⟨empty, directory, filed, .inl ⟨made, means⟩⟩

/-- The lock file is opened once the lock directory stands. -/
theorem of_opened {wider : FileSystem} {id : Nat} (filed : table.directory = some directory)
    (paved : fs.Paved (directory :: Path.parents directory) wider)
    (opened : wider.openFile (Path.join directory (Branch.handle branch ++ ".lock")) =
      .ok (id, fs')) : LockTraces table branch fs fs' := by
  have made : LockTraces table branch fs wider := of_paved filed paved
  have cases := FileSystem.openFile_ok opened
  rw [paved.here, FileSystem.meant_join_lock] at cases
  obtain ⟨-, rfl⟩ | ⟨empty, -, rfl⟩ := cases
  · exact made
  · have ne : lockPlace fs.here directory (Branch.handle branch) ≠ [] := by simp [lockPlace]
    refine ⟨fun bare => ?_, paved.here, fun place => ?_⟩
    · rw [filed] at bare
      cases bare
    · by_cases same : place = lockPlace fs.here directory (Branch.handle branch)
      · have stood : fs.node? place = none := by
          obtain stood | ⟨stood, -⟩ := paved.node place
          · rw [← stood, same, empty]
          · exact stood
        have new : (wider.newFile place []).node? place = some (.file fs.nextId []) := by
          rw [← paved.nextId]
          exact FileSystem.node?_put_self (same ▸ ne) _
        subst same
        exact .inr ⟨stood, directory, filed, .inr ⟨new, rfl⟩⟩
      · have kept : (wider.newFile (lockPlace fs.here directory (Branch.handle branch)) []).node?
            place = wider.node? place := FileSystem.node?_put_of_ne same _
        rw [kept]
        exact made.node place

end LockTraces

namespace Locks

theorem traces_takeFile (locks : Locks) (fs : FileSystem) (table : LockTable) (branch : String) :
    LockTraces table branch fs (locks.takeFile fs table branch (Branch.handle branch)).2.2 := by
  unfold takeFile
  split
  · exact .refl table branch fs
  · rename_i directory filed
    have paved := FileSystem.paved_makeAlong (directory :: Path.parents directory) fs
    change fs.Paved _ (fs.makeDirectories directory).2 at paved
    split
    · rename_i made
      rw [made] at paved
      exact .of_paved filed paved
    · rename_i made
      rw [made] at paved
      dsimp only
      split
      · exact .of_paved filed paved
      · rename_i opened
        split <;> exact .of_opened filed paved opened

/-- Whether a lock is given or not, it touches nothing that stands. -/
theorem traces_acquire (locks : Locks) (fs : FileSystem) (table : LockTable) (branch : String) :
    LockTraces table branch fs (locks.acquire fs table branch).2.2 := by
  unfold acquire
  dsimp only
  split
  · exact .refl table branch fs
  · have file := traces_takeFile
      { locks with held := (table.id, Branch.handle branch) :: locks.held } fs table branch
    split
    · rename_i same
      rwa [same] at file
    · rename_i same
      rwa [same] at file

end Locks

end Worktop

import Worktop.Proofs.Branch.Handle
import Worktop.Proofs.FileSystem

/-! # Lock files and who they are

A lock is held on a file, not on a path: two tables of locks meet at a file if their directories are
one place, however the directories are written (`Worktop.FileSystem.meant_join_lock`). That only one
place has a file (`Worktop.FileSystem.Identified`) is kept by all that a table does to the files:
it makes directories, which takes nothing away (`Worktop.FileSystem.Widens`), and opens a file.
-/

namespace Worktop

namespace FileSystem

variable {fs fs' fs'' : FileSystem} {place other : List String} {id : Nat}

/-! ## Which file -/

/-- The identity of the file at a place, if one stands there. -/
def fileId? (fs : FileSystem) (place : List String) : Option Nat :=
  match fs.node? place with
  | some (.file id _) => some id
  | _ => none

/-- No file stands at two places, and all files were made before the next one. -/
structure Identified (fs : FileSystem) : Prop where
  apart : ∀ {p q id}, fs.fileId? p = some id → fs.fileId? q = some id → p = q
  earlier : ∀ {p id}, fs.fileId? p = some id → id < fs.nextId

theorem fileId?_eq_some_iff :
    fs.fileId? place = some id ↔ ∃ bytes, fs.node? place = some (.file id bytes) := by
  unfold fileId?
  split
  · rename_i stands
    simp [stands]
  · rename_i noFile
    simp only [reduceCtorEq, false_iff, not_exists]
    exact fun bytes stands => noFile _ _ stands

theorem fileId?_of_none (empty : fs.node? place = none) : fs.fileId? place = none := by
  simp [fileId?, empty]

theorem identified_startingIn (here : List String) : (startingIn here).Identified := by
  have bare : ∀ p, (startingIn here).fileId? p = none := by
    intro p
    rw [Option.eq_none_iff_forall_ne_some]
    intro id file
    obtain ⟨bytes, stands⟩ := fileId?_eq_some_iff.mp file
    by_cases root : p = []
    · rw [root, node?_root] at stands
      cases stands
    · rw [node?_of_ne root, Option.map_eq_some_iff] at stands
      obtain ⟨entry, found, node⟩ := stands
      obtain ⟨n, -, rfl⟩ := List.mem_map.mp (List.mem_of_find?_eq_some found)
      cases node
  exact ⟨fun file => by simp [bare] at file, fun file => by simp [bare] at file⟩

/-! ## Making directories -/

/-- All that is new are directories. -/
structure Widens (fs fs' : FileSystem) : Prop where
  here : fs'.here = fs.here
  nextId : fs'.nextId = fs.nextId
  node : ∀ place, fs'.node? place = fs.node? place ∨
    fs.node? place = none ∧ fs'.node? place = some .directory

theorem Widens.refl (fs : FileSystem) : fs.Widens fs := ⟨rfl, rfl, fun _ => .inl rfl⟩

theorem Widens.fileId? (widens : fs.Widens fs') (place : List String) :
    fs'.fileId? place = fs.fileId? place := by
  unfold FileSystem.fileId?
  obtain same | ⟨empty, made⟩ := widens.node place
  · rw [same]
  · rw [empty, made]

theorem Widens.identified (widens : fs.Widens fs') (identified : fs.Identified) :
    fs'.Identified where
  apart := by
    intro p q id first second
    rw [widens.fileId?] at first second
    exact identified.apart first second
  earlier := by
    intro p id file
    rw [widens.fileId?] at file
    rw [widens.nextId]
    exact identified.earlier file

theorem Widens.makeDirectory {path : String} (widens : fs.Widens fs')
    (made : fs'.makeDirectory path = .ok fs'') : fs.Widens fs'' := by
  obtain ⟨place, empty, rfl, -⟩ := makeDirectory_ok made
  have ne : place ≠ [] := by
    intro root
    rw [root] at empty
    cases empty
  refine ⟨widens.here, widens.nextId, fun p => ?_⟩
  by_cases same : p = place
  · subst same
    obtain stood | ⟨-, directory⟩ := widens.node p
    · exact .inr ⟨stood.symm.trans empty, node?_put_self ne _⟩
    · rw [empty] at directory
      cases directory
  · rw [node?_put_of_ne same]
    exact widens.node p

theorem widens_makeDirectories (fs : FileSystem) (path : String) :
    fs.Widens (fs.makeDirectories path).2 := by
  have step : ∀ between path after, fs.Widens between → between.makeDirectory path = .ok after →
      fs.Widens after := fun _ _ _ widens made => widens.makeDirectory made
  exact makeAlong_keeps step _ (.refl fs)

theorem walk_of_append_blank {front back : List String} (blank : ∀ segment ∈ back, segment = "")
    (walked : fs.walk place (front ++ back) = .ok other) : fs.walk place front = .ok other := by
  induction front generalizing place with
  | nil =>
    induction back with
    | nil => exact walked
    | cons segment rest ih =>
      obtain ⟨rfl, below⟩ := List.forall_mem_cons.mp blank
      exact ih below (walk_cons_ok_iff.mp walked).2.2
  | cons segment rest ih =>
    obtain ⟨directory, short, walked⟩ := walk_cons_ok_iff.mp walked
    exact walk_cons_ok_iff.mpr ⟨directory, short, ih walked⟩

theorem locateSegments_of_append_blank {path : String} {front back : List String}
    (blank : ∀ segment ∈ back, segment = "")
    (located : fs.locateSegments path (front ++ back) = .ok place) :
    fs.locateSegments path front = .ok place := by
  unfold locateSegments at located ⊢
  split at located
  · cases located
  split at located
  · cases located
  split at located
  · cases located
  rename_i filled noNul short
  rw [if_neg filled, if_neg noNul, if_neg short]
  exact walk_of_append_blank blank located

/-- The segments of a path, with the blank ones at its end apart. -/
theorem segments_blank_tail (path : String) :
    ∃ back, ((Path.segments path).reverse.dropWhile (· = "")).reverse ++ back =
      Path.segments path ∧ ∀ segment ∈ back, segment = "" := by
  refine ⟨((Path.segments path).reverse.takeWhile (· = "")).reverse, ?_, fun segment member => ?_⟩
  · rw [← List.reverse_append, List.takeWhile_append_dropWhile, List.reverse_reverse]
  · have all : ((Path.segments path).reverse.takeWhile (· = "")).all (· = "") = true :=
      List.all_takeWhile
    exact of_decide_eq_true (List.all_eq_true.mp all segment (List.mem_reverse.mp member))

theorem makeDirectory_of_isDirectory {path : String} (stands : fs.isDirectory path = true) :
    fs.makeDirectory path = .error .alreadyExists := by
  unfold isDirectory at stands
  split at stands
  · rename_i place found
    obtain ⟨located, directory⟩ := find_ok_iff.mp found
    obtain ⟨back, whole, blank⟩ := segments_blank_tail path
    rw [locate, ← whole] at located
    unfold makeDirectory
    dsimp only
    rw [locateSegments_of_append_blank blank located]
    simp [bind, Except.bind, directory]
  · cases stands

/-- A directory that stands need not be made. -/
theorem makeDirectories_of_isDirectory {path : String} (stands : fs.isDirectory path = true) :
    fs.makeDirectories path = (.ok (), fs) := by
  unfold makeDirectories makeAlong
  split
  · rfl
  · rw [makeDirectory_of_isDirectory stands]

/-! ## Opening a file -/

/-- A file that is opened was there, or is new at a place that was empty. -/
theorem openFile_ok {path : String} (opened : fs.openFile path = .ok (id, fs')) :
    fs.fileId? (meant fs.here path) = some id ∧ fs' = fs ∨
      fs.node? (meant fs.here path) = none ∧ id = fs.nextId ∧
        fs' = fs.newFile (meant fs.here path) [] := by
  unfold openFile at opened
  cases located : fs.locate path with
  | error e =>
    rw [locate] at located
    rw [located] at opened
    cases opened
  | ok place =>
    obtain ⟨rfl, -, -⟩ := locate_ok_iff.mp located
    rw [locate] at located
    rw [located] at opened
    simp only [bind, Except.bind] at opened
    split at opened
    · rename_i stands
      cases opened
      exact .inl ⟨fileId?_eq_some_iff.mpr ⟨_, stands⟩, rfl⟩
    · cases opened
    · rename_i empty
      cases opened
      exact .inr ⟨empty, rfl, rfl⟩

theorem fileId?_newFile_self (empty : fs.node? place = none) (bytes : List UInt8) :
    (fs.newFile place bytes).fileId? place = some fs.nextId := by
  have ne : place ≠ [] := by
    intro root
    rw [root] at empty
    cases empty
  exact fileId?_eq_some_iff.mpr ⟨bytes, node?_put_self ne _⟩

theorem fileId?_newFile_of_ne (apart : other ≠ place) (bytes : List UInt8) :
    (fs.newFile place bytes).fileId? other = fs.fileId? other := by
  have kept : (fs.put place (.file fs.nextId bytes)).node? other = fs.node? other :=
    node?_put_of_ne apart _
  unfold fileId?
  rw [← kept]
  rfl

theorem Identified.newFile (identified : fs.Identified) (empty : fs.node? place = none)
    (bytes : List UInt8) : (fs.newFile place bytes).Identified := by
  have known : ∀ {p id}, (fs.newFile place bytes).fileId? p = some id →
      p = place ∧ id = fs.nextId ∨ p ≠ place ∧ fs.fileId? p = some id := by
    intro p id file
    by_cases same : p = place
    · subst same
      rw [fileId?_newFile_self empty] at file
      exact .inl ⟨rfl, (Option.some.inj file).symm⟩
    · rw [fileId?_newFile_of_ne same] at file
      exact .inr ⟨same, file⟩
  constructor
  · intro p q id first second
    obtain ⟨rfl, new⟩ | ⟨-, old⟩ := known first
    · obtain ⟨rfl, -⟩ | ⟨-, old⟩ := known second
      · rfl
      · exact absurd (identified.earlier old) (by omega)
    · obtain ⟨-, new⟩ | ⟨-, old'⟩ := known second
      · exact absurd (identified.earlier old) (by omega)
      · exact identified.apart old old'
  · intro p id file
    change id < fs.nextId + 1
    obtain ⟨-, new⟩ | ⟨-, old⟩ := known file
    · omega
    · exact Nat.lt_succ_of_lt (identified.earlier old)

/-! ## The place of a lock file -/

/-- The place of the lock file of a key in a directory. -/
def lockPlace (here : List String) (directory key : String) : List String :=
  meant here directory ++ [key ++ ".lock"]

theorem lockPlace_eq_iff {here : List String} {d e k l : String} :
    lockPlace here d k = lockPlace here e l ↔ meant here d = meant here e ∧ k = l := by
  unfold lockPlace
  rw [List.append_eq_append_iff_of_size_eq_right (by simp)]
  simp [String.ext_iff]

theorem descend_append (place : List String) (front back : List String) :
    descend place (front ++ back) = descend (descend place front) back := by
  induction front generalizing place with
  | nil => rfl
  | cons segment rest ih => exact ih _

/-- A name is looked up where the path leads that it is joined to. -/
theorem meant_join (here : List String) (base : String) {child : String}
    (named : Path.IsName child) :
    meant here (Path.join base child) = meant here base ++ [child] := by
  have last (place : List String) : next place child = place ++ [child] := by
    simp [next, named.filled, named.notHere, named.notUp]
  by_cases blank : base = ""
  · have alone : Path.join base child = child := by simp [Path.join, blank]
    rw [alone, blank, meant, start, named.relative, Path.segments_of_no_slash named.whole]
    exact last here
  · obtain ⟨alike, front, back, -, before, ended, after⟩ := Path.segments_join blank named
    unfold meant start
    rw [alike, before, after, descend_append, descend_append]
    obtain rfl | rfl := ended
    · exact last _
    · exact last _

/-- The lock file of a branch stands in the lock directory, under the handle of the branch. -/
theorem meant_join_lock (here : List String) (directory branch : String) :
    meant here (Path.join directory (Branch.handle branch ++ ".lock")) =
      lockPlace here directory (Branch.handle branch) :=
  meant_join here directory (Branch.isName_lock branch)

/-- A lock file was opened: it stood there, and nothing else came of it than directories, or it is
new. -/
structure Opened (fs fs' : FileSystem) (place : List String) (id : Nat) : Prop where
  here : fs'.here = fs.here
  self : fs'.fileId? place = some id
  others : ∀ {other}, other ≠ place → fs'.fileId? other = fs.fileId? other
  known : fs.fileId? place = some id ∧ fs.Widens fs' ∨
    fs.fileId? place = none ∧ id = fs.nextId
  identified : fs.Identified → fs'.Identified

/-- No file that stood becomes another. -/
theorem Opened.stays (opened : fs.Opened fs' place id) {other : List String} {file : Nat}
    (stood : fs.fileId? other = some file) : fs'.fileId? other = some file := by
  by_cases same : other = place
  · subst same
    obtain ⟨known, -⟩ | ⟨empty, -⟩ := opened.known
    · rw [opened.self, ← known, stood]
    · rw [empty] at stood
      cases stood
  · rw [opened.others same, stood]

theorem opened_lock {directory branch : String}
    (opened : (fs.makeDirectories directory).2.openFile
      (Path.join directory (Branch.handle branch ++ ".lock")) = .ok (id, fs')) :
    fs.Opened fs' (lockPlace fs.here directory (Branch.handle branch)) id := by
  have widens := widens_makeDirectories fs directory
  have cases := openFile_ok opened
  rw [widens.here, meant_join_lock] at cases
  obtain ⟨stood, rfl⟩ | ⟨empty, rfl, rfl⟩ := cases
  · have before := stood
    rw [widens.fileId?] at before
    exact ⟨widens.here, stood, fun _ => widens.fileId? _, .inl ⟨before, widens⟩,
      widens.identified⟩
  · have before := fileId?_of_none empty
    rw [widens.fileId?] at before
    refine ⟨widens.here, fileId?_newFile_self empty [], fun apart => ?_, .inr ⟨before, ?_⟩, ?_⟩
    · rw [fileId?_newFile_of_ne apart, widens.fileId?]
    · exact widens.nextId
    · exact fun identified => (widens.identified identified).newFile empty []

end FileSystem

end Worktop

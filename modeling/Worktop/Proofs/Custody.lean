import Worktop.Proofs.LockFile

/-! # Who holds which locks

A lock is taken in two layers, the keys of a table and the lock files, and both are undone apart.
Seen from outside there is one layer: the guards that were given and not given up. Over every run of
acquisitions and drops the two layers hold exactly what the live guards stand for
(`Worktop.Custody.Sound`), so that every answer, and every guard that is left, can be told from the
slots of the live guards alone (`Worktop.LockTables.Runs.settled`). Main statement: live guards of
tables that meet have different keys, and an acquisition is turned down exactly if a live guard is
in its way.
-/

namespace Worktop

open FileSystem (lockPlace meant)

/-! ## Tables, guards and moves -/

/-- Tables of locks by their ids: the lock directory of each. -/
abbrev LockTables := Nat → Option String

namespace LockTables

/-- The table with an id. -/
def table (tables : LockTables) (n : Nat) : LockTable := { id := n, directory := tables n }

/-- Tables whose locks keep each other out: one and the same, or two with one lock directory. -/
def Meet (tables : LockTables) (here : List String) (n m : Nat) : Prop :=
  n = m ∨ tables n ≠ none ∧ (tables n).map (meant here) = (tables m).map (meant here)

instance (tables : LockTables) (here : List String) (n m : Nat) :
    Decidable (tables.Meet here n m) :=
  inferInstanceAs (Decidable (_ ∨ _))

theorem Meet.symm {tables : LockTables} {here : List String} {n m : Nat}
    (meet : tables.Meet here n m) : tables.Meet here m n := by
  obtain rfl | ⟨filed, same⟩ := meet
  · exact .inl rfl
  · refine .inr ⟨fun bare => filed ?_, same.symm⟩
    rw [bare, Option.map_none, Option.map_eq_none_iff] at same
    exact same

end LockTables

/-- The lock file of a branch can be opened, once the lock directory is made. -/
def LockTable.Opens (table : LockTable) (fs : FileSystem) (branch : String) : Prop :=
  ∀ directory ∈ table.directory,
    (fs.makeDirectories directory).1.isOk = true ∧
      ((fs.makeDirectories directory).2.openFile
        (Path.join directory (Branch.handle branch ++ ".lock"))).isOk = true

instance (table : LockTable) (fs : FileSystem) (branch : String) :
    Decidable (table.Opens fs branch) :=
  inferInstanceAs (Decidable (∀ directory ∈ table.directory, _ ∧ _))

/-- The table and the key of a guard. -/
def Guard.slot (guard : Guard) : Nat × String := (guard.table, guard.key)

/-- What is locked, the files, and the guards that were given and not given up, latest first. -/
structure Custody where
  locks : Locks := {}
  files : FileSystem := {}
  live : List Guard := []
  deriving DecidableEq, Repr

namespace Custody

/-- Asks for the lock of a branch. -/
def acquire (c : Custody) (table : LockTable) (branch : String) :
    Except LockError Guard × Custody :=
  match c.locks.acquire c.files table branch with
  | (.ok guard, locks, files) => (.ok guard, { locks, files, live := guard :: c.live })
  | (.error e, locks, files) => (.error e, { c with locks, files })

/-- Gives up a guard. -/
def drop (c : Custody) (guard : Guard) : Custody :=
  { c with locks := c.locks.release guard, live := c.live.erase guard }

/-- A live guard is in the way of a branch at a table. -/
def Barred (tables : LockTables) (c : Custody) (n : Nat) (branch : String) : Prop :=
  ∃ guard ∈ c.live, guard.key = Branch.handle branch ∧ tables.Meet c.files.here guard.table n

instance (tables : LockTables) (c : Custody) (n : Nat) (branch : String) :
    Decidable (c.Barred tables n branch) :=
  inferInstanceAs (Decidable (∃ guard ∈ c.live, _ ∧ _))

end Custody

namespace LockTables

/-- The files after others have worked on them: no two files have become one, and the lock files of
live guards are the ones that were there. -/
structure Spares (tables : LockTables) (live : List Guard) (fs fs' : FileSystem) : Prop where
  here : fs'.here = fs.here
  identified : fs'.Identified
  kept : ∀ guard ∈ live, ∀ directory ∈ tables guard.table,
    fs'.fileId? (lockPlace fs.here directory guard.key) =
      fs.fileId? (lockPlace fs.here directory guard.key)

/-- What is done with locks: one is asked for, or a guard is given up. -/
inductive Move where
  | acquire (table : Nat) (branch : String)
  | drop (table : Nat) (key : String)
  deriving DecidableEq, Repr

/-- A run of moves, with the answers to those that ask for a lock. Meanwhile others may work on the
files. -/
inductive Runs (tables : LockTables) :
    Custody → List Move → List (Except LockError (Nat × String)) → Custody → Prop where
  | done {c : Custody} : Runs tables c [] [] c
  | meanwhile {c c' : Custody} {files : FileSystem} {moves : List Move}
      {answers : List (Except LockError (Nat × String))}
      (spares : Spares tables c.live c.files files)
      (rest : Runs tables { c with files } moves answers c') :
      Runs tables c moves answers c'
  | acquire {c c' : Custody} {n : Nat} {branch : String} {moves : List Move}
      {answers : List (Except LockError (Nat × String))}
      (opens : (tables.table n).Opens c.files branch)
      (rest : Runs tables (c.acquire (tables.table n) branch).2 moves answers c') :
      Runs tables c (.acquire n branch :: moves)
        ((c.acquire (tables.table n) branch).1.map Guard.slot :: answers) c'
  | drop {c c' : Custody} (guard : Guard) {moves : List Move}
      {answers : List (Except LockError (Nat × String))}
      (held : guard ∈ c.live)
      (rest : Runs tables (c.drop guard) moves answers c') :
      Runs tables c (.drop guard.table guard.key :: moves) answers c'

end LockTables

namespace Custody

variable {tables : LockTables} {c c' : Custody} {table : LockTable} {n : Nat} {branch : String}
  {answer : Except LockError Guard}

/-! ## What an acquisition can come to -/

/-- Everything that an acquisition can come to. -/
inductive Acquired (c : Custody) (table : LockTable) (branch : String) :
    Except LockError Guard → Custody → Prop where
  | listed (taken : (table.id, Branch.handle branch) ∈ c.locks.held) :
      Acquired c table branch (.error (.busy branch)) c
  | unfiled (free : (table.id, Branch.handle branch) ∉ c.locks.held)
      (bare : table.directory = none) :
      Acquired c table branch
        (.ok { table := table.id, key := Branch.handle branch, file := none })
        { c with
          locks.held := (table.id, Branch.handle branch) :: c.locks.held
          live := { table := table.id, key := Branch.handle branch, file := none } :: c.live }
  | unopened {text : String} {files : FileSystem} (shut : ¬ table.Opens c.files branch)
      (widens : c.files.Widens files) :
      Acquired c table branch (.error (.io text)) { c with files }
  | contended {directory : String} {id : Nat} {files : FileSystem}
      (filed : table.directory = some directory)
      (opened : (c.files.makeDirectories directory).2.openFile
        (Path.join directory (Branch.handle branch ++ ".lock")) = .ok (id, files))
      (taken : id ∈ c.locks.files) :
      Acquired c table branch (.error (.busy branch)) { c with files }
  | filed {directory : String} {id : Nat} {files : FileSystem}
      (free : (table.id, Branch.handle branch) ∉ c.locks.held)
      (filed : table.directory = some directory)
      (opened : (c.files.makeDirectories directory).2.openFile
        (Path.join directory (Branch.handle branch ++ ".lock")) = .ok (id, files))
      (untaken : id ∉ c.locks.files) :
      Acquired c table branch
        (.ok { table := table.id, key := Branch.handle branch, file := some id })
        { locks.held := (table.id, Branch.handle branch) :: c.locks.held
          locks.files := id :: c.locks.files
          files
          live := { table := table.id, key := Branch.handle branch, file := some id } :: c.live }

theorem acquire_fst (c : Custody) (table : LockTable) (branch : String) :
    (c.acquire table branch).1 = (c.locks.acquire c.files table branch).1 := by
  unfold acquire
  split
  · rename_i same
    rw [same]
  · rename_i same
    rw [same]

theorem acquire_files (c : Custody) (table : LockTable) (branch : String) :
    (c.acquire table branch).2.files = (c.locks.acquire c.files table branch).2.2 := by
  unfold acquire
  split
  · rename_i same
    rw [same]
  · rename_i same
    rw [same]

theorem acquired (c : Custody) (table : LockTable) (branch : String) :
    c.Acquired table branch (c.acquire table branch).1 (c.acquire table branch).2 := by
  unfold acquire Locks.acquire Locks.takeFile
  by_cases free : (table.id, Branch.handle branch) ∈ c.locks.held
  · simpa [free] using Acquired.listed free
  · simp only [free, ↓reduceIte]
    cases filed : table.directory with
    | none => exact .unfiled free filed
    | some directory =>
      have widens := FileSystem.widens_makeDirectories c.files directory
      cases made : c.files.makeDirectories directory with
      | mk done wider =>
        rw [made] at widens
        cases done with
        | error e =>
          have shut : ¬ table.Opens c.files branch := by
            intro opens
            have done := (opens directory filed).1
            rw [made] at done
            cases done
          have unopened : c.Acquired table branch (.error (.io e.message))
              { c with files := wider } := .unopened shut widens
          simpa [made] using unopened
        | ok =>
          cases opened : wider.openFile
              (Path.join directory (Branch.handle branch ++ ".lock")) with
          | error e =>
            have shut : ¬ table.Opens c.files branch := by
              intro opens
              have done := (opens directory filed).2
              rw [made, opened] at done
              cases done
            simpa [made, opened] using Acquired.unopened shut widens
          | ok file =>
            obtain ⟨id, files⟩ := file
            have opens : (c.files.makeDirectories directory).2.openFile
                (Path.join directory (Branch.handle branch ++ ".lock")) = .ok (id, files) := by
              rw [made]
              exact opened
            by_cases taken : id ∈ c.locks.files
            · simpa [made, opened, taken] using Acquired.contended filed opens taken
            · simpa [made, opened, taken] using Acquired.filed free filed opens taken

/-! ## The two layers -/

/-- The lock file of a guard stands where the guard's table keeps it. -/
structure Kept (tables : LockTables) (fs : FileSystem) (guard : Guard) : Prop where
  bare : tables guard.table = none → guard.file = none
  filed : ∀ {directory}, tables guard.table = some directory →
    ∃ id, guard.file = some id ∧ fs.fileId? (lockPlace fs.here directory guard.key) = some id

/-- What is locked is what the live guards stand for, and no two of them are in each other's way. -/
structure Sound (tables : LockTables) (c : Custody) : Prop where
  identified : c.files.Identified
  held : c.locks.held.Perm (c.live.map Guard.slot)
  filed : c.locks.files.Perm (c.live.filterMap Guard.file)
  kept : ∀ guard ∈ c.live, Kept tables c.files guard
  apart : c.live.Pairwise fun first second =>
    tables.Meet c.files.here first.table second.table → first.key ≠ second.key

theorem sound_start {start : FileSystem} (identified : start.Identified) :
    Sound tables { files := start } :=
  ⟨identified, .nil, .nil, fun _ member => absurd member List.not_mem_nil, .nil⟩

theorem Sound.mem_held (sound : Sound tables c) {key : String} :
    (n, key) ∈ c.locks.held ↔ ∃ guard ∈ c.live, guard.table = n ∧ guard.key = key := by
  rw [sound.held.mem_iff]
  simp [Guard.slot]

/-- A file that is locked is the lock file of a live guard. -/
theorem Sound.mem_files (sound : Sound tables c) {id : Nat} (locked : id ∈ c.locks.files) :
    ∃ guard ∈ c.live, ∃ directory, tables guard.table = some directory ∧
      c.files.fileId? (lockPlace c.files.here directory guard.key) = some id := by
  rw [sound.filed.mem_iff, List.mem_filterMap] at locked
  obtain ⟨guard, live, file⟩ := locked
  have kept := sound.kept guard live
  cases directory : tables guard.table with
  | none => simp [kept.bare directory] at file
  | some directory' =>
    obtain ⟨id', file', stands⟩ := kept.filed directory
    rw [file] at file'
    cases file'
    exact ⟨guard, live, directory', directory, stands⟩

/-- The lock file of a live guard is locked. -/
theorem Sound.files_of_live (sound : Sound tables c) {guard : Guard} (live : guard ∈ c.live)
    {directory : String} {id : Nat} (filed : tables guard.table = some directory)
    (stands : c.files.fileId? (lockPlace c.files.here directory guard.key) = some id) :
    id ∈ c.locks.files := by
  obtain ⟨id', file, stands'⟩ := (sound.kept guard live).filed filed
  rw [stands] at stands'
  cases stands'
  exact sound.filed.mem_iff.mpr (List.mem_filterMap.mpr ⟨guard, live, file⟩)

/-- Where an acquisition is turned down as busy, a live guard is in its way. -/
theorem Sound.barred_of_busy (sound : Sound tables c)
    (acquired : c.Acquired (tables.table n) branch (.error (.busy branch)) c') :
    c.Barred tables n branch := by
  cases acquired with
  | listed taken =>
    obtain ⟨guard, live, same, key⟩ := sound.mem_held.mp taken
    exact ⟨guard, live, key, .inl same⟩
  | contended filed opened taken =>
    obtain ⟨guard, live, directory, filed', stands⟩ := sound.mem_files taken
    obtain ⟨stood, -⟩ | ⟨-, new⟩ := (FileSystem.opened_lock opened).known
    · obtain ⟨place, key⟩ := FileSystem.lockPlace_eq_iff.mp (sound.identified.apart stands stood)
      refine ⟨guard, live, key, .inr ⟨by simp [filed'], ?_⟩⟩
      change tables n = _ at filed
      simp [filed', filed, place]
    · exact absurd (sound.identified.earlier stands) (by omega)

/-- Where an acquisition succeeds, no live guard was in its way. -/
theorem Sound.free_of_ok (sound : Sound tables c) {guard : Guard}
    (acquired : c.Acquired (tables.table n) branch (.ok guard) c') :
    ¬ c.Barred tables n branch := by
  intro ⟨rival, live, key, meet⟩
  cases acquired with
  | unfiled free bare =>
    change tables n = none at bare
    obtain same | ⟨filed, same⟩ := meet
    · exact free (sound.mem_held.mpr ⟨rival, live, same, key⟩)
    · rw [bare, Option.map_none, Option.map_eq_none_iff] at same
      exact filed same
  | filed free filed opened untaken =>
    change tables n = some _ at filed
    obtain same | ⟨_, same⟩ := meet
    · exact free (sound.mem_held.mpr ⟨rival, live, same, key⟩)
    · rw [filed, Option.map_some, Option.map_eq_some_iff] at same
      obtain ⟨directory, filed', place⟩ := same
      obtain ⟨id, -, stands⟩ := (sound.kept rival live).filed filed'
      have here := FileSystem.lockPlace_eq_iff.mpr ⟨place, key⟩
      have locked := sound.files_of_live live filed' stands
      rw [here] at stands
      obtain ⟨stood, -⟩ | ⟨empty, -⟩ := (FileSystem.opened_lock opened).known
      · rw [stands] at stood
        cases stood
        exact untaken locked
      · rw [stands] at empty
        cases empty

/-! ## What a move keeps -/

theorem Kept.stays {fs fs' : FileSystem} {guard : Guard} (kept : Kept tables fs guard)
    (here : fs'.here = fs.here)
    (stays : ∀ directory ∈ tables guard.table, ∀ id,
      fs.fileId? (lockPlace fs.here directory guard.key) = some id →
        fs'.fileId? (lockPlace fs.here directory guard.key) = some id) : Kept tables fs' guard where
  bare := kept.bare
  filed := by
    intro directory filed
    obtain ⟨id, file, stands⟩ := kept.filed filed
    rw [here]
    exact ⟨id, file, stays directory filed id stands⟩

theorem Sound.meanwhile (sound : Sound tables c) {files : FileSystem}
    (spares : tables.Spares c.live c.files files) : Sound tables { c with files } where
  identified := spares.identified
  held := sound.held
  filed := sound.filed
  kept := by
    intro guard live
    refine (sound.kept guard live).stays spares.here fun directory filed id stands => ?_
    rw [spares.kept guard live directory filed, stands]
  apart := by
    rw [spares.here]
    exact sound.apart

theorem spares_of_widens {live : List Guard} {fs fs' : FileSystem} (identified : fs.Identified)
    (widens : fs.Widens fs') : tables.Spares live fs fs' :=
  ⟨widens.here, widens.identified identified, fun _ _ _ _ => widens.fileId? _⟩

/-- One more guard, which no other is in the way of. -/
theorem Sound.take (sound : Sound tables c) {files : FileSystem} (guard : Guard)
    (here : files.here = c.files.here) (identified : files.Identified)
    (stays : ∀ {place id}, c.files.fileId? place = some id → files.fileId? place = some id)
    (kept : Kept tables files guard)
    (free : ∀ other ∈ c.live, tables.Meet c.files.here guard.table other.table →
      guard.key ≠ other.key) :
    Sound tables
      { locks.held := guard.slot :: c.locks.held
        locks.files := guard.file.toList ++ c.locks.files
        files
        live := guard :: c.live } where
  identified := identified
  held := sound.held.cons _
  filed := by
    rw [List.filterMap_cons]
    cases guard.file with
    | none => exact sound.filed
    | some id => exact sound.filed.cons id
  kept := by
    intro other member
    obtain rfl | live := List.mem_cons.mp member
    · exact kept
    · exact (sound.kept other live).stays here fun _ _ _ stands => stays stands
  apart := by
    rw [here]
    exact .cons free sound.apart

/-- What an acquisition keeps. -/
theorem Sound.acquire (sound : Sound tables c)
    (acquired : c.Acquired (tables.table n) branch answer c') : Sound tables c' := by
  have free : ∀ guard, answer = .ok guard → ∀ other ∈ c.live,
      tables.Meet c.files.here n other.table → Branch.handle branch ≠ other.key := by
    intro guard ok other live meet key
    rw [ok] at acquired
    exact sound.free_of_ok acquired ⟨other, live, key.symm, meet.symm⟩
  cases acquired with
  | listed taken => exact sound
  | unfiled untaken bare =>
    refine sound.take { table := n, key := Branch.handle branch, file := none }
      rfl sound.identified id ⟨fun _ => rfl, fun filed => ?_⟩ (free _ rfl)
    cases bare.symm.trans filed
  | unopened shut widens => exact sound.meanwhile (spares_of_widens sound.identified widens)
  | contended filed opened taken =>
    obtain ⟨-, widens⟩ | ⟨-, new⟩ := (FileSystem.opened_lock opened).known
    · exact sound.meanwhile (spares_of_widens sound.identified widens)
    · obtain ⟨guard, live, directory, -, stands⟩ := sound.mem_files taken
      exact absurd (sound.identified.earlier stands) (by omega)
  | filed untaken filed opened fresh =>
    have lock := FileSystem.opened_lock opened
    refine sound.take { table := n, key := Branch.handle branch, file := some _ }
      lock.here (lock.identified sound.identified) lock.stays ⟨fun bare => ?_, fun filed' => ?_⟩
      (free _ rfl)
    · cases bare.symm.trans filed
    · cases filed'.symm.trans filed
      refine ⟨_, rfl, ?_⟩
      rw [lock.here]
      exact lock.self

/-- What giving up a guard keeps. -/
theorem Sound.drop (sound : Sound tables c) {guard : Guard} (live : guard ∈ c.live) :
    Sound tables (c.drop guard) where
  identified := sound.identified
  held := by
    have slots := sound.held.trans ((List.perm_cons_erase live).map Guard.slot)
    simpa [Custody.drop, Locks.release, Guard.slot] using slots.erase guard.slot
  filed := by
    have files := sound.filed.trans ((List.perm_cons_erase live).filterMap Guard.file)
    rw [List.filterMap_cons] at files
    unfold Custody.drop Locks.release
    cases file : guard.file with
    | none => simpa [file] using files
    | some id => simpa [file] using files.erase id
  kept := fun other member => sound.kept other (List.mem_of_mem_erase member)
  apart := sound.apart.sublist List.erase_sublist

/-! ## What can be told from the live guards -/

/-- An acquisition is turned down exactly if a live guard is in its way, and then nothing comes to
be locked or unlocked. -/
theorem Sound.answered (sound : Sound tables c) (opens : (tables.table n).Opens c.files branch) :
    c.Barred tables n branch ∧
        (c.acquire (tables.table n) branch).1 = .error (.busy branch) ∧
        (c.acquire (tables.table n) branch).2.locks = c.locks ∧
        (c.acquire (tables.table n) branch).2.live = c.live ∨
      ¬ c.Barred tables n branch ∧ ∃ guard : Guard, guard.slot = (n, Branch.handle branch) ∧
        (c.acquire (tables.table n) branch).1 = .ok guard ∧
        (c.acquire (tables.table n) branch).2.live = guard :: c.live := by
  have acquired := c.acquired (tables.table n) branch
  generalize (c.acquire (tables.table n) branch).1 = answer at acquired ⊢
  generalize (c.acquire (tables.table n) branch).2 = c' at acquired ⊢
  cases acquired with
  | listed taken => exact .inl ⟨sound.barred_of_busy (.listed taken), rfl, rfl, rfl⟩
  | unfiled free bare => exact .inr ⟨sound.free_of_ok (.unfiled free bare), _, rfl, rfl, rfl⟩
  | unopened shut widens => exact absurd opens shut
  | contended filed opened taken =>
    exact .inl ⟨sound.barred_of_busy (.contended filed opened taken), rfl, rfl, rfl⟩
  | filed free filed opened untaken =>
    exact .inr ⟨sound.free_of_ok (.filed free filed opened untaken), _, rfl, rfl, rfl⟩

theorem Acquired.here (acquired : c.Acquired table branch answer c') :
    c'.files.here = c.files.here := by
  cases acquired with
  | listed taken => rfl
  | unfiled free bare => rfl
  | unopened shut widens => exact widens.here
  | contended filed opened taken => exact (FileSystem.opened_lock opened).here
  | filed free filed opened untaken => exact (FileSystem.opened_lock opened).here

theorem Sound.isOk_acquire (sound : Sound tables c)
    (opens : (tables.table n).Opens c.files branch) :
    (c.locks.acquire c.files (tables.table n) branch).1.isOk = true ↔
      ¬ c.Barred tables n branch := by
  rw [← acquire_fst]
  obtain ⟨barred, busy, -⟩ | ⟨free, guard, -, ok, -⟩ := sound.answered opens
  · rw [busy]
    exact iff_of_false nofun (not_not_intro barred)
  · rw [ok]
    exact iff_of_true rfl free

/-- Where no guard is given, none of the locks is touched, and nothing comes of the files but
directories. -/
theorem Sound.of_error (sound : Sound tables c) {e : LockError}
    (acquired : c.Acquired (tables.table n) branch (.error e) c') :
    c'.locks = c.locks ∧ c.files.Widens c'.files := by
  cases acquired with
  | listed taken => exact ⟨rfl, .refl _⟩
  | unopened shut widens => exact ⟨rfl, widens⟩
  | contended filed opened taken =>
    obtain ⟨-, widens⟩ | ⟨-, new⟩ := (FileSystem.opened_lock opened).known
    · exact ⟨rfl, widens⟩
    · obtain ⟨guard, live, directory, -, stands⟩ := sound.mem_files taken
      exact absurd (sound.identified.earlier stands) (by omega)

/-- Where the lock directory stands, an acquisition that is turned down leaves the files alone. -/
theorem Sound.files_of_busy (sound : Sound tables c)
    (acquired : c.Acquired (tables.table n) branch (.error (.busy branch)) c')
    (stands : ∀ directory ∈ tables n, c.files.isDirectory directory = true) :
    c'.files = c.files := by
  cases acquired with
  | listed taken => rfl
  | contended filed opened taken =>
    rw [FileSystem.makeDirectories_of_isDirectory (stands _ filed)] at opened
    dsimp only at opened
    obtain ⟨-, same⟩ | ⟨-, new, -⟩ := FileSystem.openFile_ok opened
    · exact same
    · obtain ⟨guard, live, directory, -, stands⟩ := sound.mem_files taken
      exact absurd (sound.identified.earlier stands) (by omega)

theorem Acquired.slot {guard : Guard} (acquired : c.Acquired table branch (.ok guard) c') :
    guard.slot = (table.id, Branch.handle branch) := by
  cases acquired with
  | unfiled free bare => rfl
  | filed free filed opened untaken => rfl

/-- Giving up a guard frees its slot and no other. -/
theorem Sound.slots_drop (sound : Sound tables c) {guard : Guard} (live : guard ∈ c.live) :
    (c.drop guard).live.map Guard.slot = (c.live.map Guard.slot).erase guard.slot := by
  have distinct : c.live.Pairwise fun first second => first.slot ≠ second.slot := by
    refine sound.apart.imp fun apart same => ?_
    obtain ⟨table, key⟩ := Prod.mk.inj same
    exact apart (.inl table) key
  change (c.live.erase guard).map Guard.slot = _
  generalize c.live = guards at live distinct ⊢
  induction guards with
  | nil => cases live
  | cons first rest ih =>
    obtain ⟨others, distinct⟩ := List.pairwise_cons.mp distinct
    by_cases same : first = guard
    · simp [same]
    · have later : guard ∈ rest := (List.mem_cons.mp live).resolve_left (Ne.symm same)
      rw [List.erase_cons_tail (by simpa using same), List.map_cons, List.map_cons,
        List.erase_cons_tail (by simpa using others guard later), ih later distinct]

end Custody

namespace LockTables

variable (tables : LockTables) (here : List String)

/-- The answer to an acquisition, told from the slots of the live guards. -/
def told (slots : List (Nat × String)) (n : Nat) (branch : String) :
    Except LockError (Nat × String) :=
  if ∃ slot ∈ slots, slot.2 = Branch.handle branch ∧ tables.Meet here slot.1 n then
    .error (.busy branch)
  else .ok (n, Branch.handle branch)

/-- The answers to some moves and the slots of the guards that are left, told from the slots of the
live guards. -/
def settle : List (Nat × String) → List Move →
    List (Except LockError (Nat × String)) × List (Nat × String)
  | slots, [] => ([], slots)
  | slots, .acquire n branch :: moves =>
    let answer := tables.told here slots n branch
    let (answers, left) := settle (answer.toOption.toList ++ slots) moves
    (answer :: answers, left)
  | slots, .drop n key :: moves => settle (slots.erase (n, key)) moves

variable {tables} {c c' : Custody} {moves : List Move}
  {answers : List (Except LockError (Nat × String))}

/-- The two layers answer as the slots tell. -/
theorem Runs.settled (run : tables.Runs c moves answers c') (sound : c.Sound tables) :
    c'.Sound tables ∧ c'.files.here = c.files.here ∧
      tables.settle c.files.here (c.live.map Guard.slot) moves =
        (answers, c'.live.map Guard.slot) := by
  induction run with
  | done => exact ⟨sound, rfl, rfl⟩
  | meanwhile spares rest ih =>
    obtain ⟨after, here, settled⟩ := ih (sound.meanwhile spares)
    exact ⟨after, here.trans spares.here, spares.here ▸ settled⟩
  | @acquire c c' n branch moves answers opens rest ih =>
    have acquired := c.acquired (tables.table n) branch
    obtain ⟨after, here, settled⟩ := ih (sound.acquire acquired)
    rw [acquired.here] at here settled
    refine ⟨after, here, ?_⟩
    obtain ⟨barred, busy, -, same⟩ | ⟨free, guard, slot, ok, more⟩ := sound.answered opens
    · have told : tables.told c.files.here (c.live.map Guard.slot) n branch =
          .error (.busy branch) := by
        obtain ⟨guard, live, key, meet⟩ := barred
        exact if_pos ⟨guard.slot, List.mem_map_of_mem live, key, meet⟩
      rw [same] at settled
      simp only [settle, told, busy]
      simp [settled, Except.toOption, Except.map]
    · have told : tables.told c.files.here (c.live.map Guard.slot) n branch =
          .ok (n, Branch.handle branch) := by
        refine if_neg fun ⟨_, member, key, meet⟩ => ?_
        obtain ⟨guard, live, rfl⟩ := List.mem_map.mp member
        exact free ⟨guard, live, key, meet⟩
      rw [more, List.map_cons, slot] at settled
      simp only [settle, told, ok]
      simp [settled, Except.toOption, Except.map, slot]
  | drop guard held rest ih =>
    obtain ⟨after, here, settled⟩ := ih (sound.drop held)
    refine ⟨after, here, ?_⟩
    rw [sound.slots_drop held] at settled
    exact settled

/-- Over every run, however the moves on the tables take turns, live guards of tables that meet have
different keys. An acquisition is turned down as busy exactly if a live guard of its key is in its
way, and gives a guard otherwise. One that is turned down leaves what is locked and the live guards
as they were, and whatever is done next has the answers and leaves the guards that it would have had
and left without it. -/
theorem Runs.exclusive_exact {start : FileSystem} (identified : start.Identified)
    (run : tables.Runs { files := start } moves answers c) :
    (c.live.Pairwise fun first second =>
        tables.Meet c.files.here first.table second.table → first.key ≠ second.key) ∧
      ∀ n branch, (tables.table n).Opens c.files branch →
        ((c.acquire (tables.table n) branch).1 = .error (.busy branch) ↔
            c.Barred tables n branch) ∧
          (¬ c.Barred tables n branch → ∃ guard : Guard,
            guard.slot = (n, Branch.handle branch) ∧
            (c.acquire (tables.table n) branch).1 = .ok guard ∧
            (c.acquire (tables.table n) branch).2.live = guard :: c.live) ∧
          (c.Barred tables n branch →
            (c.acquire (tables.table n) branch).2.locks = c.locks ∧
            (c.acquire (tables.table n) branch).2.live = c.live ∧
            ∀ later first second c₁ c₂, tables.Runs c later first c₁ →
              tables.Runs (c.acquire (tables.table n) branch).2 later second c₂ →
              second = first ∧ c₂.live.map Guard.slot = c₁.live.map Guard.slot) := by
  have sound := (run.settled (Custody.sound_start identified)).1
  refine ⟨sound.apart, fun n branch opens => ?_⟩
  have acquired := c.acquired (tables.table n) branch
  obtain ⟨barred, busy, locks, live⟩ | ⟨free, guard, slot, ok, live⟩ := sound.answered opens
  · refine ⟨iff_of_true busy barred, fun free => absurd barred free, fun _ => ⟨locks, live, ?_⟩⟩
    intro later first second c₁ c₂ run₁ run₂
    obtain ⟨-, -, settled₁⟩ := run₁.settled sound
    obtain ⟨-, -, settled₂⟩ := run₂.settled (sound.acquire acquired)
    rw [acquired.here, live, settled₁] at settled₂
    obtain ⟨same, left⟩ := Prod.mk.inj settled₂
    exact ⟨same.symm, left.symm⟩
  · refine ⟨iff_of_false ?_ free, fun _ => ⟨guard, slot, ok, live⟩, ?_⟩
    · rw [ok]
      exact nofun
    · exact fun barred => absurd barred free

/-- Two tables with one lock directory, written in two ways, and others without one. -/
def neighbours : LockTables
  | 0 => some "locks"
  | 1 => some "./locks"
  | _ => none

theorem neighbours_exclusive_exact :
    (FileSystem.startingIn ["home"]).Identified ∧
      ∃ answers c, neighbours.Runs { files := .startingIn ["home"] }
          [.acquire 0 "demo", .acquire 2 "demo", .acquire 1 "demo", .drop 0 "demo"] answers c ∧
        answers = [.ok (0, "demo"), .ok (2, "demo"), .error (.busy "demo")] ∧
        (c.acquire (neighbours.table 2) "demo").1 = .error (.busy "demo") ∧
        ∃ guard : Guard, guard.slot = (1, Branch.handle "demo") ∧
          (c.acquire (neighbours.table 1) "demo").1 = .ok guard ∧
          (c.acquire (neighbours.table 1) "demo").2.live = guard :: c.live := by
  have identified := FileSystem.identified_startingIn ["home"]
  have run : ∃ answers c, neighbours.Runs { files := .startingIn ["home"] }
        [.acquire 0 "demo", .acquire 2 "demo", .acquire 1 "demo", .drop 0 "demo"] answers c ∧
      answers = [.ok (0, "demo"), .ok (2, "demo"), .error (.busy "demo")] ∧
      (neighbours.table 2).Opens c.files "demo" ∧ c.Barred neighbours 2 "demo" ∧
      (neighbours.table 1).Opens c.files "demo" ∧ ¬ c.Barred neighbours 1 "demo" := by
    refine ⟨_, _, .acquire ?_ (.acquire ?_ (.acquire ?_
      (.drop { table := 0, key := "demo", file := some 0 } ?_ .done))), rfl, ?_, ?_, ?_, ?_⟩
    all_goals decide +kernel
  obtain ⟨answers, c, run, told, opens₂, barred, opens₁, free⟩ := run
  have exact := (run.exclusive_exact identified).2
  exact ⟨identified, answers, c, run, told, (exact 2 "demo" opens₂).1.mpr barred,
    (exact 1 "demo" opens₁).2.1 free⟩

end LockTables

end Worktop

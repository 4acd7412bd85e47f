import Worktop.Proofs.Addition
import Worktop.Proofs.Custody
import Worktop.Proofs.Perform
import Worktop.Rehearsal

/-! # Operations under the lock of their branch

Additions, removals and closings take the lock of their branch, do their work and give the lock up.
The work is put together from acts that leave the locks alone (`Worktop.Act.Plain`), so it does not
matter where it ends: between the taking and the giving up nothing happens to any lock. What follows
for a session in which others may hold locks is `Worktop.Bracketed`. Main statement: it holds of
every operation, whatever the outside answers.
-/

namespace Worktop

open Act

variable {ω α ε : Type}

/-- An act that takes no lock and gives none up, whatever commands it runs. -/
abbrev Act.Plain (act : Act ω α) : Prop :=
  act.Within fun _ => True

/-! ## What is done under the lock -/

namespace Multiplexer

theorem createWindow_plain (m : Multiplexer) (name directory : String) (env : Environment) :
    Plain (m.createWindow name directory env : Mux.Result ω Mux.Window).run :=
  createWindow_own name directory env |>.imp fun _ _ => trivial

theorem destroyWindow_plain (m : Multiplexer) (name : String) :
    Plain (m.destroyWindow name : Mux.Result ω Unit).run :=
  destroyWindow_own name |>.imp fun _ _ => trivial

end Multiplexer

namespace Repository

theorem remove_plain (r : Repository) (branch : String) (force : Bool) :
    Plain (r.remove branch force : Worktree.Result ω Unit).run :=
  remove_within force trivial (fun _ => trivial) trivial

theorem deleteBranch_plain (r : Repository) (branch : String) (force : Bool) :
    Plain (r.deleteBranch branch force : Worktree.Result ω Unit).run :=
  deleteBranch_within force trivial fun _ => trivial

end Repository

namespace Lifecycle

variable {setup : Setup} {workspace : Workspace} {branch : String}

namespace Add

open Adding (within_attempt within_lift within_modify within_pure within_throw)

/-- A part of an addition that takes no lock and gives none up. -/
abbrev PlainPart (part : Adding ω α) : Prop :=
  part.Within (fun _ => True) fun _ => True

theorem made_plain (resource : Resource) : PlainPart (Adding.made resource : Adding ω Unit) :=
  within_modify fun _ _ => trivial

theorem createWorktree_plain :
    PlainPart (createWorktree setup branch : Adding ω String) := by
  unfold createWorktree
  apply (within_lift (Repository.create_within trivial trivial trivial)).bind
  intro result
  cases result with
  | ok path =>
    exact (made_plain _).bind fun _ => (made_plain _).bind fun _ => within_pure path
  | error e =>
    apply (within_lift (Repository.branchExists_within trivial)).bind
    intro left
    dsimp only
    split
    · exact within_throw _
    · exact (made_plain _).bind fun _ => within_throw _
    · exact within_throw _

theorem createWindow_plain (path : String) :
    PlainPart (createWindow setup workspace path : Adding ω Mux.Window) := by
  unfold createWindow
  apply (within_attempt (setup.mux.createWindow_plain _ _ _) _).bind
  intro window
  exact (made_plain _).bind fun _ => (made_plain _).bind fun _ => within_pure window

theorem provision_plain (config : Config) :
    PlainPart (provision setup workspace config : Adding ω Unit) := by
  rw [provision_eq]
  apply createWorktree_plain.bind
  intro path
  apply (createWindow_plain path).bind
  intro window
  have steady : Steady fun _ => True :=
    ⟨fun _ _ _ => trivial, fun _ _ => trivial, fun _ _ => trivial⟩
  exact furnish_within steady (fun _ => trivial) (fun _ _ => trivial) config window

section Undo

variable {allowed : Command → Prop}

theorem undo_window_within {name : String}
    (destroys : Within allowed (setup.mux.destroyWindow name : Mux.Result ω Unit).run) :
    Within allowed (undo setup (.window name) : ExceptT Cause (Act ω) Unit).run := by
  apply destroys.lift.andThen
  intro result
  split
  · exact within_ok _
  · exact within_ok _
  · exact within_error _

theorem undo_worktree_within {path : String}
    (removes : Within allowed (setup.repository.remove branch true : Worktree.Result ω Unit).run) :
    Within allowed (undo setup (.worktree branch path) : ExceptT Cause (Act ω) Unit).run := by
  apply removes.lift.andThen
  intro result
  split
  · exact within_ok _
  · exact within_ok _
  · exact within_error _

theorem undo_branch_within
    (deletes : Within allowed
      (setup.repository.deleteBranch branch true : Worktree.Result ω Unit).run) :
    Within allowed (undo setup (.branch branch) : ExceptT Cause (Act ω) Unit).run := by
  apply deletes.lift.andThen
  intro result
  split
  · exact within_ok _
  · exact within_ok _
  · exact within_error _

theorem undo_within
    (destroys : ∀ name, Within allowed (setup.mux.destroyWindow name : Mux.Result ω Unit).run)
    (removes : ∀ branch, Within allowed
      (setup.repository.remove branch true : Worktree.Result ω Unit).run)
    (deletes : ∀ branch, Within allowed
      (setup.repository.deleteBranch branch true : Worktree.Result ω Unit).run)
    (resource : Resource) :
    Within allowed (undo setup resource : ExceptT Cause (Act ω) Unit).run := by
  cases resource with
  | pane window pane => exact within_ok _
  | window name => exact undo_window_within (destroys name)
  | worktree branch path => exact undo_worktree_within (removes branch)
  | branch name => exact undo_branch_within (deletes name)

end Undo

/-- A rollback is put together from the undoings of single resources. -/
theorem rollBack_within {allowed : Command → Prop}
    (undoes : ∀ resource, Within allowed (undo setup resource : ExceptT Cause (Act ω) Unit).run)
    (resources : List Resource) :
    Within allowed (rollBack setup resources : Act ω (List Resource × List Error)) := by
  induction resources with
  | nil => exact .pure _
  | cons resource rest ih =>
    unfold rollBack
    apply (undoes resource).bind
    intro result
    cases result with
    | ok _ => exact ih.bind fun _ => .pure _
    | error cause => exact ih.bind fun _ => .pure _

theorem rollBack_plain (resources : List Resource) :
    Plain (rollBack setup resources : Act ω (List Resource × List Error)) :=
  rollBack_within (undo_within setup.mux.destroyWindow_plain
    (fun branch => setup.repository.remove_plain branch true)
    fun branch => setup.repository.deleteBranch_plain branch true) resources

theorem addLocked_plain (config : Config) :
    Plain (addLocked setup workspace config : Act ω (Outcome AddState)) := by
  unfold addLocked
  apply (validate_within (fun _ _ => trivial) trivial trivial).bind
  intro verdict
  cases verdict with
  | error e => exact .pure _
  | ok _ =>
    unfold build
    apply ((provision_plain config).within {}).bind
    intro ended
    obtain ⟨result, progress⟩ := ended
    cases result with
    | ok _ => exact .pure _
    | error e => exact (rollBack_plain _).bind fun _ => .pure _

end Add

namespace Remove

theorem destroyWindow_plain (name : String) :
    Plain (destroyWindow setup name : Act ω Progress) := by
  unfold destroyWindow
  apply (setup.mux.destroyWindow_plain name).bind
  intro result
  split <;> exact .pure _

theorem removeWorktree_plain (path : String) (force : Bool) :
    Plain (removeWorktree setup branch path force : Act ω Progress) := by
  unfold removeWorktree
  apply (setup.repository.remove_plain branch force).bind
  intro result
  split <;> exact .pure _

theorem deleteBranch_plain (force : Bool) :
    Plain (deleteBranch setup branch force : Act ω Progress) := by
  unfold deleteBranch
  apply (setup.repository.deleteBranch_plain branch force).bind
  intro result
  split <;> exact .pure _

theorem tearDown_plain (force window : Bool) (worktree : Option Worktree.Entry) (found : Bool) :
    Plain (tearDown setup workspace force window worktree found : Act ω Progress) := by
  rw [tearDown_eq]
  refine Within.bind ?_ fun first => Within.bind ?_ fun second => Within.bind ?_ fun _ => .pure _
  · split
    · exact destroyWindow_plain _
    · exact .pure _
  · split
    · exact removeWorktree_plain _ force
    · exact .pure _
  · split
    · exact deleteBranch_plain force
    · exact .pure _

theorem removeLocked_plain (force : Bool) :
    Plain (removeLocked setup workspace force : Act ω (Outcome RemoveState)) := by
  unfold removeLocked
  apply (lookUp_within trivial trivial).bind
  intro seen
  cases seen with
  | error e => exact .pure _
  | ok seen =>
    obtain ⟨entry, found⟩ := seen
    dsimp only
    split
    · exact .pure _
    apply Within.bind ((Multiplexer.windowExists_mild _).imp fun _ _ => trivial)
    intro answer
    cases answer
    all_goals
      apply (Within.pure _).bind
      intro seen
      split
      · exact .pure _
      · exact (tearDown_plain force _ entry found).bind fun progress => .pure _

end Remove

theorem closeLocked_plain :
    Plain (closeLocked setup branch : ExceptT Error (Act ω) Unit).run := by
  unfold closeLocked
  apply (setup.mux.destroyWindow_plain _).lift.andThen
  intro result
  split
  · exact within_ok _
  · exact within_error _
  · exact within_error _

end Lifecycle

/-! ## What is done from taking a lock to giving it up -/

/-- The guards that were taken and not given up. -/
def liveAfter : List Event → List Guard
  | [] => []
  | .locked guard :: earlier => guard :: liveAfter earlier
  | .released guard :: earlier => (liveAfter earlier).erase guard
  | _ :: earlier => liveAfter earlier

theorem liveAfter_append {new old : List Event} (lockless : Lockless new) :
    liveAfter (new ++ old) = liveAfter old := by
  induction new with
  | nil => rfl
  | cons event rest ih =>
    have quiet : Lockless rest := lockless.of_subset (List.subset_cons_self event rest)
    cases event with
    | locked guard => exact absurd List.mem_cons_self (lockless guard).1
    | released guard => exact absurd List.mem_cons_self (lockless guard).2
    | _ => exact ih quiet

/-- What is run between taking a lock and giving it up is run while its guard is live. -/
theorem mem_liveAfter_of_ran {guard : Guard} {inner later earlier : List Event}
    {command : Command} {reply : Reply} (lockless : Lockless inner)
    (split : .released guard :: (inner ++ [.locked guard]) =
      later ++ .ran command reply :: earlier) : guard ∈ liveAfter earlier := by
  cases later with
  | nil => cases split
  | cons last later =>
    obtain ⟨-, split⟩ := List.cons.inj split
    obtain ⟨front, rfl, back⟩ | ⟨rest, rfl, back⟩ := List.append_eq_append_iff.mp split
    · have member : Event.ran command reply ∈ [Event.locked guard] := by simp [back]
      cases List.mem_singleton.mp member
    · cases rest with
      | nil => cases back
      | cons event rest =>
        obtain ⟨-, same⟩ := List.cons.inj back
        have quiet : Lockless rest := by
          refine lockless.of_subset ?_
          intro other member
          simp [member]
        rw [same, List.append_eq, liveAfter_append quiet]
        exact List.mem_cons_self

/-- Who holds which locks in a session, by the guards that are live. -/
def Session.custody (s : Session ω) (live : List Guard) : Custody :=
  { locks := s.locks, files := s.files, live }

/-- What the lock of a branch means for an act that is done in a session, where `live` are the
guards of others and `busy` is given where one of them is in the way: the act is `refused` or
`admitted`, its commands are `guarded`, and no guard stays or goes. -/
structure Bracketed (tables : LockTables) (live : List Guard) (n : Nat) (branch : String)
    (act : Act ω α) (busy : α) (host : Host ω) (s : Session ω) (events : List Event) : Prop where
  journal : (act.perform host s).2.journal = events ++ s.journal
  refused : (s.custody live).Barred tables n branch → (tables.table n).Opens s.files branch →
    (act.perform host s).1 = busy ∧ events = [.refused (.busy branch)] ∧
      (act.perform host s).2.outside = s.outside ∧
      s.files.Widens (act.perform host s).2.files ∧
      ((∀ directory ∈ tables n, s.files.isDirectory directory = true) →
        (act.perform host s).2.files = s.files)
  admitted : ¬ (s.custody live).Barred tables n branch → (tables.table n).Opens s.files branch →
    ∃ guard inner, guard.slot = (n, Branch.handle branch) ∧ Lockless inner ∧
      events = .released guard :: (inner ++ [.locked guard])
  guarded : ∀ later command reply earlier, events = later ++ .ran command reply :: earlier →
    ∃ guard ∈ liveAfter earlier, guard.slot = (n, Branch.handle branch)
  returned : liveAfter events = []
  locks : (act.perform host s).2.locks = s.locks
  lockable : tables.Spares live s.files (act.perform host s).2.files → ∀ m other,
    (tables.table m).Opens s.files other →
    (tables.table m).Opens (act.perform host s).2.files other →
      ((act.perform host s).2.locks.acquire (act.perform host s).2.files (tables.table m)
        other).1.isOk = (s.locks.acquire s.files (tables.table m) other).1.isOk

namespace Act

variable {tables : LockTables} {live : List Guard} {n : Nat} {branch : String}
  {refuse : LockError → α} {act : Act ω α} {host : Host ω} {s s' : Session ω}

/-- Does something under the lock of a branch, unless the lock is not to be had. -/
def underLock (table : LockTable) (branch : String) (refuse : LockError → α) (act : Act ω α) :
    Act ω α :=
  acquire table branch >>= fun
    | .error e => pure (refuse e)
    | .ok guard => act >>= fun a => release guard >>= fun _ => pure a

theorem perform_underLock_error (refuse : LockError → α) (act : Act ω α) (host : Host ω)
    {table : LockTable} {e : LockError} {locks : Locks} {files : FileSystem}
    (refused : s.locks.acquire s.files table branch = (.error e, locks, files)) :
    (underLock table branch refuse act).perform host s =
      (refuse e, { s with locks, files }.note (.refused e)) :=
  perform_bind (perform_acquire_error refused)

theorem perform_underLock_ok (refuse : LockError → α) {table : LockTable} {guard : Guard}
    {locks : Locks} {files : FileSystem} {a : α}
    (taken : s.locks.acquire s.files table branch = (.ok guard, locks, files))
    (done : act.perform host ({ s with locks, files }.note (.locked guard)) = (a, s')) :
    (underLock table branch refuse act).perform host s =
      (a, { s' with locks := s'.locks.release guard }.note (.released guard)) := by
  unfold underLock
  rw [perform_bind (perform_acquire taken), perform_bind done]
  rfl

/-- The locks are the same, so the same locks can be had. -/
theorem isOk_acquire_after {c : Custody} {files : FileSystem} (sound : c.Sound tables)
    (spares : tables.Spares c.live c.files files) {m : Nat} {other : String}
    (before : (tables.table m).Opens c.files other) (after : (tables.table m).Opens files other) :
    (c.locks.acquire files (tables.table m) other).1.isOk =
      (c.locks.acquire c.files (tables.table m) other).1.isOk := by
  have same : Custody.Barred tables { c with files } m other ↔ c.Barred tables m other := by
    unfold Custody.Barred
    rw [spares.here]
  rw [Bool.eq_iff_iff, sound.isOk_acquire before, (sound.meanwhile spares).isOk_acquire after,
    same]

theorem bracketed_of_error (sound : (s.custody live).Sound tables) {e : LockError} {locks : Locks}
    {files : FileSystem}
    (asked : s.locks.acquire s.files (tables.table n) branch = (.error e, locks, files)) :
    Bracketed tables live n branch (underLock (tables.table n) branch refuse act)
      (refuse (.busy branch)) host s [.refused e] := by
  have performed := perform_underLock_error refuse act host asked
  have custody : (s.custody live).acquire (tables.table n) branch =
      (.error e, { s.custody live with locks, files }) := by
    simp [Custody.acquire, Session.custody, asked]
  have acquired := (s.custody live).acquired (tables.table n) branch
  rw [custody] at acquired
  obtain ⟨same, widens⟩ := sound.of_error acquired
  constructor
  case journal =>
    rw [performed]
    rfl
  case refused =>
    intro barred opens
    have busy : e = .busy branch := by
      obtain ⟨-, busy, -⟩ | ⟨free, -⟩ := sound.answered opens
      · rw [custody] at busy
        exact Except.error.inj busy
      · exact absurd barred free
    subst busy
    rw [performed]
    exact ⟨rfl, rfl, rfl, widens, sound.files_of_busy acquired⟩
  case admitted =>
    intro free opens
    obtain ⟨barred, -⟩ | ⟨-, guard, -, ok, -⟩ := sound.answered opens
    · exact absurd barred free
    · rw [custody] at ok
      cases ok
  case guarded =>
    intro later command reply earlier split
    have member : Event.ran command reply ∈ [Event.refused e] := split ▸ by simp
    cases List.mem_singleton.mp member
  case returned => rfl
  case locks =>
    rw [performed]
    exact same
  case lockable =>
    rw [performed]
    intro spares m other before after
    rw [show locks = s.locks from same]
    exact isOk_acquire_after sound spares before after

theorem bracketed_of_ok (plain : act.Plain) (sound : (s.custody live).Sound tables) {guard : Guard}
    {locks : Locks} {files : FileSystem}
    (asked : s.locks.acquire s.files (tables.table n) branch = (.ok guard, locks, files)) :
    ∃ events, Bracketed tables live n branch (underLock (tables.table n) branch refuse act)
      (refuse (.busy branch)) host s events := by
  obtain ⟨inner, journal, lockless⟩ :=
    plain.lockless host ({ s with locks, files }.note (.locked guard))
  have kept := plain.locks host ({ s with locks, files }.note (.locked guard))
  cases done : act.perform host ({ s with locks, files }.note (.locked guard)) with
  | mk a s' =>
  rw [done] at journal kept
  have performed := perform_underLock_ok refuse asked done
  have custody : (s.custody live).acquire (tables.table n) branch =
      (.ok guard, { locks, files, live := guard :: live }) := by
    simp [Custody.acquire, Session.custody, asked]
  have acquired := (s.custody live).acquired (tables.table n) branch
  rw [custody] at acquired
  have restored : s'.locks.release guard = s.locks := by
    rw [show s'.locks = locks from kept]
    exact Locks.release_acquire asked
  refine ⟨.released guard :: (inner ++ [.locked guard]), ?_⟩
  constructor
  case journal =>
    rw [performed]
    change Event.released guard :: s'.journal = _
    rw [journal]
    simp [Session.note]
  case refused =>
    intro barred _
    exact absurd barred (sound.free_of_ok acquired)
  case admitted => exact fun _ _ => ⟨guard, inner, acquired.slot, lockless, rfl⟩
  case guarded =>
    intro later command reply earlier split
    exact ⟨guard, mem_liveAfter_of_ran lockless split, acquired.slot⟩
  case returned =>
    change (liveAfter (inner ++ [.locked guard])).erase guard = []
    rw [liveAfter_append lockless]
    simp [liveAfter]
  case locks =>
    rw [performed]
    exact restored
  case lockable =>
    rw [performed]
    intro spares m other before after
    change ((s'.locks.release guard).acquire _ _ _).1.isOk = _
    rw [restored]
    exact isOk_acquire_after sound spares before after

theorem underLock_bracketed (plain : act.Plain) (sound : (s.custody live).Sound tables) :
    ∃ events, Bracketed tables live n branch (underLock (tables.table n) branch refuse act)
      (refuse (.busy branch)) host s events := by
  cases asked : s.locks.acquire s.files (tables.table n) branch with
  | mk answer rest =>
  obtain ⟨locks, files⟩ := rest
  cases answer with
  | error e => exact ⟨_, bracketed_of_error sound asked⟩
  | ok guard => exact bracketed_of_ok plain sound asked

end Act

namespace Lifecycle

theorem add_eq_underLock (setup : Setup) (branch : String) (config : Config) :
    (add setup branch config : Act ω (Outcome AddState)) =
      underLock setup.lockTable branch
        (fun e => { state := .failed, workspace := setup.workspace branch,
                    errors := [Add.rejection (.lock e)] })
        (Add.addLocked setup (setup.workspace branch) config) := rfl

theorem remove_eq_underLock (setup : Setup) (branch : String) (force : Bool) :
    (remove setup branch force : Act ω (Outcome RemoveState)) =
      underLock setup.lockTable branch
        (fun e => { state := .failed, workspace := setup.workspace branch,
                    errors := [Remove.rejection (.lock e)] })
        (Remove.removeLocked setup (setup.workspace branch) force) := rfl

/-- Closing, too, is done under the lock, though it may fail. -/
theorem close_eq_underLock (setup : Setup) (branch : String) :
    (close setup branch : ExceptT Error (Act ω) Unit).run =
      underLock setup.lockTable branch
        (fun e => .error { phase := .close, kind := .validation, cause := .lock e })
        (closeLocked setup branch).run := by
  unfold close underLock
  rw [ExceptT.run_bind, ExceptT.run_lift, map_eq_pure_bind, bind_assoc]
  congr

/-- Additions, removals and closings are bracketed by the lock of their branch, whoever holds which
locks. Where a live guard is in the way, one error says so and nothing is run, made or removed;
otherwise all commands, those of a rollback included, are run under the operation's own guard, which
is given up once, at the end. Whatever comes of it, the same guards are live afterwards and the same
locks can be had. -/
theorem bracketed_by_lock {tables : LockTables} {start : FileSystem} {moves : List LockTables.Move}
    {answers : List (Except LockError (Nat × String))} {live : List Guard} {s : Session ω}
    (identified : start.Identified)
    (run : tables.Runs { files := start } moves answers (s.custody live)) (setup : Setup) {n : Nat}
    (own : setup.lockTable = tables.table n) (branch : String) (host : Host ω) :
    (∀ config, ∃ events, Bracketed tables live n branch (add setup branch config)
        { state := .failed, workspace := setup.workspace branch,
          errors := [Add.rejection (.lock (.busy branch))] } host s events) ∧
      (∀ force, ∃ events, Bracketed tables live n branch (remove setup branch force)
        { state := .failed, workspace := setup.workspace branch,
          errors := [Remove.rejection (.lock (.busy branch))] } host s events) ∧
      ∃ events, Bracketed tables live n branch (close setup branch).run
        (.error { phase := .close, kind := .validation, cause := .lock (.busy branch) })
        host s events := by
  have sound := (run.settled (Custody.sound_start identified)).1
  refine ⟨fun config => ?_, fun force => ?_, ?_⟩
  · rw [add_eq_underLock, own]
    exact underLock_bracketed (Add.addLocked_plain config) sound
  · rw [remove_eq_underLock, own]
    exact underLock_bracketed (Remove.removeLocked_plain force) sound
  · rw [close_eq_underLock, own]
    exact underLock_bracketed closeLocked_plain sound

/-- A session while the lock of `demo` is held through the other table. -/
def crowded : Session Script where
  outside := []
  files :=
    { here := ["home"]
      nodes :=
        [(["home"], .directory), (["home", "locks"], .directory),
          (["home", "locks", "demo.lock"], .file 0 [])]
      nextId := 1 }
  locks := { held := [(1, "demo")], files := [0] }

/-- The guard that the other table gave. -/
def foreign : Guard := { table := 1, key := "demo", file := some 0 }

/-- Locks are kept in a directory that another table has too. -/
def neighbourly : Setup where
  repository := { root := "repo", base := "trees" }
  mux := { kind := .tmux }
  shell := { path := "/bin/sh" }
  lockTable := LockTables.neighbours.table 0

theorem crowded_bracketed :
    (FileSystem.startingIn ["home"]).Identified ∧
      LockTables.neighbours.Runs { files := .startingIn ["home"] } [.acquire 1 "demo"]
        [.ok (1, "demo")] (crowded.custody [foreign]) ∧
      neighbourly.lockTable = LockTables.neighbours.table 0 ∧
      ((add neighbourly "demo" {}).perform Script.host crowded).1.errors =
        [Add.rejection (.lock (.busy "demo"))] ∧
      ((add neighbourly "demo" {}).perform Script.host crowded).2.files = crowded.files ∧
      ((remove neighbourly "other" true).perform Script.host crowded).2.locks = crowded.locks := by
  have run : LockTables.neighbours.Runs { files := .startingIn ["home"] } [.acquire 1 "demo"]
      [.ok (1, "demo")] (crowded.custody [foreign]) := by
    have taken : (Custody.acquire { files := .startingIn ["home"] } (LockTables.neighbours.table 1)
        "demo") = (.ok foreign, crowded.custody [foreign]) := rfl
    have opens : (LockTables.neighbours.table 1).Opens (.startingIn ["home"]) "demo" := by
      decide +kernel
    have rest : LockTables.neighbours.Runs (Custody.acquire { files := .startingIn ["home"] }
        (LockTables.neighbours.table 1) "demo").2 [] [] (crowded.custody [foreign]) := by
      rw [taken]
      exact .done
    exact .acquire opens rest
  have identified := FileSystem.identified_startingIn ["home"]
  obtain ⟨adds, -⟩ := bracketed_by_lock identified run neighbourly rfl "demo" Script.host
  obtain ⟨-, removes, -⟩ := bracketed_by_lock identified run neighbourly rfl "other" Script.host
  obtain ⟨_, added⟩ := adds {}
  obtain ⟨_, removed⟩ := removes true
  obtain ⟨busy, -, -, -, files⟩ := added.refused (by decide +kernel) (by decide +kernel)
  refine ⟨identified, run, rfl, ?_, files (by decide +kernel), removed.locks⟩
  rw [busy]

end Lifecycle

end Worktop

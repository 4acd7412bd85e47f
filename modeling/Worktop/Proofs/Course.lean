import Worktop.Proofs.FileSystem
import Worktop.Proofs.Perform
import Worktop.Proofs.World

/-! # Acts in a world

Where an act leads from a world and its files (`Worktop.Act.Leads`), whatever the course and however
many commands were answered before. Many acts end in one way only (`Worktop.Act.Ends`), and most of
these only tell something of the world and leave it as it is (`Worktop.Act.Tells`). The rules follow
a sequence of acts from world to world; a part of an addition carries its progress along as well
(`Worktop.Lifecycle.Adding.Leads`).
-/

namespace Worktop.Act

open World (host)

variable {α β ε : Type} {course : Nat → Turn} {w w' : World} {fs fs' : FileSystem}

/-- Wherever a session has come to a world and its files, an act ends as `post` says, and all locks
are as before. -/
def Leads (act : Act World.Scene α) (course : Nat → Turn) (w : World) (fs : FileSystem)
    (post : α → World → FileSystem → Prop) : Prop :=
  ∀ s : Session World.Scene, s.outside.world = w → s.files = fs →
    post (act.perform (host course) s).1 (act.perform (host course) s).2.outside.world
        (act.perform (host course) s).2.files ∧
      (act.perform (host course) s).2.locks = s.locks

/-- Wherever a session has come to a world and its files, an act gives `a` and ends in the world
`w'` with the files `fs'`. -/
def Ends (act : Act World.Scene α) (course : Nat → Turn) (w : World) (fs : FileSystem) (a : α)
    (w' : World) (fs' : FileSystem) : Prop :=
  act.Leads course w fs fun result world files => result = a ∧ world = w' ∧ files = fs'

/-- An act gives `a` and leaves the world and its files as they are. -/
abbrev Tells (act : Act World.Scene α) (course : Nat → Turn) (w : World) (fs : FileSystem) (a : α) :
    Prop :=
  act.Ends course w fs a w fs

variable {post first : α → World → FileSystem → Prop}

theorem Leads.mono {act : Act World.Scene α} (leads : act.Leads course w fs first)
    (implies : ∀ a w' fs', first a w' fs' → post a w' fs') : act.Leads course w fs post := by
  intro s world files
  obtain ⟨holds, locks⟩ := leads s world files
  exact ⟨implies _ _ _ holds, locks⟩

theorem leads_pure {a : α} (holds : post a w fs) :
    (pure a : Act World.Scene α).Leads course w fs post := by
  intro s world files
  rw [perform_pure, world, files]
  exact ⟨holds, rfl⟩

theorem Leads.bind {x : Act World.Scene α} {f : α → Act World.Scene β}
    {post : β → World → FileSystem → Prop} (before : x.Leads course w fs first)
    (after : ∀ a w' fs', first a w' fs' → (f a).Leads course w' fs' post) :
    Leads (x >>= f) course w fs post := by
  intro s world files
  obtain ⟨holds, locks⟩ := before s world files
  obtain ⟨holds', locks'⟩ := after _ _ _ holds _ rfl rfl
  rw [perform_bind (Prod.eta (x.perform (host course) s)).symm]
  exact ⟨holds', locks'.trans locks⟩

theorem leads_exec {c : Command} {post : Reply → World → FileSystem → Prop}
    (holds : ∀ n, post
      ((w.respond (course n) fs (.ofCommand c)).1.mapError
        fun reason => { program := c.program, reason })
      (w.respond (course n) fs (.ofCommand c)).2.1 (w.respond (course n) fs (.ofCommand c)).2.2) :
    (exec c : Act World.Scene Reply).Leads course w fs post := by
  intro s world files
  subst world files
  exact ⟨holds s.outside.answered, rfl⟩

theorem tells_pathExists (path : String) :
    (pathExists path : Act World.Scene Bool).Tells course w fs (fs.pathExists path) := by
  intro s world files
  subst world files
  exact ⟨⟨rfl, rfl, rfl⟩, rfl⟩

theorem ends_makeDirectories (path : String) :
    (makeDirectories path : Act World.Scene _).Ends course w fs (fs.makeDirectories path).1 w
      (fs.makeDirectories path).2 := by
  intro s world files
  subst world files
  exact ⟨⟨rfl, rfl, rfl⟩, rfl⟩

theorem tells_pause (duration : Nat) :
    (pause duration : Act World.Scene Unit).Tells course w fs () := by
  intro s world files
  subst world files
  exact ⟨⟨rfl, rfl, rfl⟩, rfl⟩

theorem leads_now :
    (now : Act World.Scene Nat).Leads course w fs fun _ w' fs' => w' = w ∧ fs' = fs := by
  intro s world files
  subst world files
  exact ⟨⟨rfl, rfl⟩, rfl⟩

theorem Leads.pollFrom {p : Poller} {check : Act World.Scene Bool}
    (checks : check.Leads course w fs fun _ w' fs' => w' = w ∧ fs' = fs) (remaining : Nat) :
    (p.pollFrom pause check remaining).Leads course w fs fun _ w' fs' => w' = w ∧ fs' = fs := by
  induction remaining using Nat.strongRecOn with
  | ind remaining ih =>
    rw [Poller.pollFrom]
    apply checks.bind
    intro found world files same
    obtain ⟨rfl, rfl⟩ := same
    split
    · exact leads_pure ⟨rfl, rfl⟩
    · split
      · exact leads_pure ⟨rfl, rfl⟩
      · apply Leads.bind (tells_pause _)
        intro _ world files same
        obtain ⟨-, rfl, rfl⟩ := same
        have shorter : remaining - min p.step remaining < remaining := by
          have : 1 ≤ p.step := Nat.le_max_right ..
          omega
        exact ih _ shorter

theorem Leads.poll {p : Poller} {what : String} {check : Act World.Scene Bool}
    (checks : check.Leads course w fs fun _ w' fs' => w' = w ∧ fs' = fs) :
    (p.poll what pause check).Leads course w fs fun _ w' fs' => w' = w ∧ fs' = fs := by
  unfold Poller.poll
  apply (Leads.pollFrom checks _).bind
  intro found world files same
  obtain ⟨rfl, rfl⟩ := same
  split
  · exact leads_pure ⟨rfl, rfl⟩
  · exact leads_pure ⟨rfl, rfl⟩

/-! ## Acts that may fail -/

theorem leads_ok {a : α} {post : Except ε α → World → FileSystem → Prop}
    (holds : post (.ok a) w fs) :
    Leads (pure a : ExceptT ε (Act World.Scene) α).run course w fs post :=
  leads_pure holds

theorem leads_error {e : ε} {post : Except ε α → World → FileSystem → Prop}
    (holds : post (.error e) w fs) :
    Leads (throw e : ExceptT ε (Act World.Scene) α).run course w fs post :=
  leads_pure holds

theorem Leads.andThen {x : ExceptT ε (Act World.Scene) α} {f : α → ExceptT ε (Act World.Scene) β}
    {first : Except ε α → World → FileSystem → Prop} {post : Except ε β → World → FileSystem → Prop}
    (before : Leads x.run course w fs first)
    (after : ∀ a w' fs', first (.ok a) w' fs' → Leads (f a).run course w' fs' post)
    (failed : ∀ e w' fs', first (.error e) w' fs' → post (.error e) w' fs') :
    Leads (x >>= f).run course w fs post := by
  rw [ExceptT.run_bind]
  apply before.bind
  intro result w' fs' holds
  cases result with
  | ok a => exact after a w' fs' holds
  | error e => exact leads_pure (failed e w' fs' holds)

theorem Leads.lift_bind {x : Act World.Scene α} {f : α → ExceptT ε (Act World.Scene) β}
    {post : Except ε β → World → FileSystem → Prop} (before : x.Leads course w fs first)
    (after : ∀ a w' fs', first a w' fs' → Leads (f a).run course w' fs' post) :
    Leads (ExceptT.lift x >>= f).run course w fs post := by
  rw [ExceptT.run_bind, ExceptT.run_lift, map_eq_pure_bind, bind_assoc]
  exact before.bind fun a w' fs' holds => after a w' fs' holds

/-! ## Acts that end in one way -/

theorem tells_pure (a : α) : (pure a : Act World.Scene α).Tells course w fs a :=
  leads_pure ⟨rfl, rfl, rfl⟩

theorem tells_ok (a : α) :
    Tells (pure a : ExceptT ε (Act World.Scene) α).run course w fs (.ok a) :=
  tells_pure _

/-- A command that is answered in one way at every turn. -/
theorem ends_exec {c : Command} {output : Output}
    (answers : ∀ turn, w.respond turn fs (.ofCommand c) = (.ok output, w', fs')) :
    (exec c : Act World.Scene Reply).Ends course w fs (.ok output) w' fs' := by
  apply leads_exec
  intro n
  rw [answers (course n)]
  exact ⟨rfl, rfl, rfl⟩

theorem Ends.bind {x : Act World.Scene α} {f : α → Act World.Scene β} {a : α}
    {post : β → World → FileSystem → Prop} (ends : x.Ends course w fs a w' fs')
    (after : (f a).Leads course w' fs' post) : Leads (x >>= f) course w fs post := by
  apply Leads.bind ends
  intro b world files same
  obtain ⟨rfl, rfl, rfl⟩ := same
  exact after

theorem Ends.andThen {x : ExceptT ε (Act World.Scene) α} {f : α → ExceptT ε (Act World.Scene) β}
    {a : α} {post : Except ε β → World → FileSystem → Prop}
    (ends : Ends x.run course w fs (.ok a) w' fs') (after : Leads (f a).run course w' fs' post) :
    Leads (x >>= f).run course w fs post := by
  rw [ExceptT.run_bind]
  exact ends.bind after

theorem Ends.lift_bind {x : Act World.Scene α} {f : α → ExceptT ε (Act World.Scene) β} {a : α}
    {post : Except ε β → World → FileSystem → Prop} (ends : x.Ends course w fs a w' fs')
    (after : Leads (f a).run course w' fs' post) :
    Leads (ExceptT.lift x >>= f).run course w fs post := by
  apply Leads.lift_bind ends
  intro b world files same
  obtain ⟨rfl, rfl, rfl⟩ := same
  exact after

/-! ## Under a lock -/

/-- What an act leads to, it leads to under a lock as well, and the lock is given up again. -/
theorem Leads.locked {act : Act World.Scene α} {table : LockTable} {branch : String} {guard : Guard}
    {locks : Locks} {s : Session World.Scene} (refuse : LockError → α)
    (leads : act.Leads course s.outside.world fs post)
    (taken : s.locks.acquire s.files table branch = (.ok guard, locks, fs)) :
    let ended := Act.perform (acquire table branch >>= fun
      | .error e => pure (refuse e)
      | .ok guard => act >>= fun a => release guard >>= fun _ => pure a) (host course) s
    post ended.1 ended.2.outside.world ended.2.files ∧ ended.2.locks = s.locks := by
  dsimp only
  rw [perform_bind (perform_acquire taken)]
  obtain ⟨holds, same⟩ := leads ({ s with locks, files := fs }.note (.locked guard)) rfl rfl
  dsimp only
  rw [perform_bind (Prod.eta (act.perform _ _)).symm]
  refine ⟨holds, ?_⟩
  rw [← Locks.release_acquire taken]
  exact congrArg (Locks.release · guard) same

end Worktop.Act

namespace Worktop.Lifecycle.Adding

open Worktop.Act

variable {α β ε : Type} {course : Nat → Turn} {w : World} {fs : FileSystem} {progress : Progress}

/-- Wherever a session has come to a world and its files, a part of an addition ends as `post`
says. -/
def Leads (part : Adding World.Scene α) (course : Nat → Turn) (progress : Progress) (w : World)
    (fs : FileSystem) (post : Except Error α → Progress → World → FileSystem → Prop) : Prop :=
  Act.Leads (part.run.run progress) course w fs fun result => post result.1 result.2

variable {first post : Except Error α → Progress → World → FileSystem → Prop}

theorem Leads.mono {part : Adding World.Scene α} (leads : part.Leads course progress w fs first)
    (implies : ∀ a p w' fs', first a p w' fs' → post a p w' fs') :
    part.Leads course progress w fs post :=
  Act.Leads.mono leads fun result => implies result.1 result.2

theorem leads_pure {a : α} (holds : post (.ok a) progress w fs) :
    Leads (pure a : Adding World.Scene α) course progress w fs post :=
  Act.leads_pure holds

theorem leads_throw {e : Error} (holds : post (.error e) progress w fs) :
    Leads (throw e : Adding World.Scene α) course progress w fs post :=
  Act.leads_pure holds

theorem leads_modify {change : Progress → Progress}
    {post : Except Error Unit → Progress → World → FileSystem → Prop}
    (holds : post (.ok ()) (change progress) w fs) :
    Leads (modify change : Adding World.Scene Unit) course progress w fs post :=
  Act.leads_pure holds

theorem Leads.bind {x : Adding World.Scene α} {f : α → Adding World.Scene β}
    {post : Except Error β → Progress → World → FileSystem → Prop}
    (before : x.Leads course progress w fs first)
    (after : ∀ a p w' fs', first (.ok a) p w' fs' → (f a).Leads course p w' fs' post)
    (failed : ∀ e p w' fs', first (.error e) p w' fs' → post (.error e) p w' fs') :
    Leads (x >>= f) course progress w fs post := by
  unfold Leads
  rw [ExceptT.run_bind, StateT.run_bind]
  apply Act.Leads.bind before
  intro result w' fs' holds
  obtain ⟨result, p⟩ := result
  cases result with
  | ok a => exact after a p w' fs' holds
  | error e => exact Act.leads_pure (failed e p w' fs' holds)

theorem Leads.lift_bind {act : Act World.Scene α} {f : α → Adding World.Scene β}
    {first : α → World → FileSystem → Prop}
    {post : Except Error β → Progress → World → FileSystem → Prop}
    (before : act.Leads course w fs first)
    (after : ∀ a w' fs', first a w' fs' → (f a).Leads course progress w' fs' post) :
    Leads (lift act >>= f) course progress w fs post := by
  unfold Leads lift
  rw [ExceptT.run_bind, StateT.run_bind, ExceptT.run_lift, StateT.run_map, StateT.run_lift,
    map_eq_pure_bind, bind_assoc, bind_assoc]
  exact Act.Leads.bind before fun a w' fs' holds => after a w' fs' holds

/-- An act is attempted, and what follows is done only where it succeeded. -/
theorem Leads.attempt_bind {act : ExceptT ε (Act World.Scene) α} {blame : ε → Error}
    {f : α → Adding World.Scene β} {first : Except ε α → World → FileSystem → Prop}
    {post : Except Error β → Progress → World → FileSystem → Prop}
    (before : Act.Leads act.run course w fs first)
    (after : ∀ a w' fs', first (.ok a) w' fs' → (f a).Leads course progress w' fs' post)
    (failed : ∀ e w' fs', first (.error e) w' fs' → post (.error (blame e)) progress w' fs') :
    Leads (attempt act blame >>= f) course progress w fs post := by
  unfold attempt
  rw [bind_assoc]
  apply Leads.lift_bind before
  intro result w' fs' holds
  cases result with
  | ok a => exact after a w' fs' holds
  | error e => exact leads_throw (failed e w' fs' holds)

theorem Leads.attempt {act : ExceptT ε (Act World.Scene) α} {blame : ε → Error}
    {first : Except ε α → World → FileSystem → Prop} (before : Act.Leads act.run course w fs first)
    (done : ∀ a w' fs', first (.ok a) w' fs' → post (.ok a) progress w' fs')
    (failed : ∀ e w' fs', first (.error e) w' fs' → post (.error (blame e)) progress w' fs') :
    Leads (attempt act blame) course progress w fs post := by
  unfold Adding.attempt
  apply Leads.lift_bind before
  intro result w' fs' holds
  cases result with
  | ok a => exact leads_pure (done a w' fs' holds)
  | error e => exact leads_throw (failed e w' fs' holds)

theorem leads_get_bind {f : Progress → Adding World.Scene β}
    {post : Except Error β → Progress → World → FileSystem → Prop}
    (after : (f progress).Leads course progress w fs post) :
    Leads (get >>= f) course progress w fs post :=
  after

theorem leads_pure_bind {a : α} {f : α → Adding World.Scene β}
    {post : Except Error β → Progress → World → FileSystem → Prop}
    (after : (f a).Leads course progress w fs post) :
    Leads (pure a >>= f) course progress w fs post :=
  after

theorem leads_modify_bind {change : Progress → Progress} {f : PUnit → Adding World.Scene β}
    {post : Except Error β → Progress → World → FileSystem → Prop}
    (after : (f ⟨⟩).Leads course (change progress) w fs post) :
    Leads (modify change >>= f) course progress w fs post :=
  after

/-- A resource is noted, and what follows is done with the new progress. -/
theorem leads_made_bind {resource : Resource} {f : Unit → Adding World.Scene β}
    {post : Except Error β → Progress → World → FileSystem → Prop}
    (after : (f ()).Leads course { progress with created := progress.created ++ [resource] } w fs
      post) : Leads (made resource >>= f) course progress w fs post :=
  after

end Worktop.Lifecycle.Adding

import Worktop.Proofs.Journal

/-! # What acts are put together from

Most of what an operation does takes no lock and gives none up: it is put together from commands,
looks at files and pauses (`Worktop.Act.Within`). Which commands those are is all there is to say of
it, so one walk through the parts of an act shows both which commands it may run
(`Worktop.Act.Within.only`) and that it leaves the locks alone (`Worktop.Act.Within.locks`).
-/

namespace Worktop

/-- No lock is taken and none is given up. -/
def Lockless (events : List Event) : Prop :=
  ∀ guard, .locked guard ∉ events ∧ .released guard ∉ events

theorem lockless_nil : Lockless [] := fun _ => ⟨List.not_mem_nil, List.not_mem_nil⟩

theorem lockless_single {event : Event} (free : ∀ guard, event ≠ .locked guard)
    (kept : ∀ guard, event ≠ .released guard) : Lockless [event] := by
  intro guard
  simp [(free guard).symm, (kept guard).symm]

theorem Lockless.of_subset {fewer events : List Event} (lockless : Lockless events)
    (subset : fewer ⊆ events) : Lockless fewer :=
  fun guard => ⟨fun member => (lockless guard).1 (subset member),
    fun member => (lockless guard).2 (subset member)⟩

theorem Lockless.append {new old : List Event} (later : Lockless new) (earlier : Lockless old) :
    Lockless (new ++ old) := by
  intro guard
  simp [later guard, earlier guard]

namespace Act

variable {ω α β ε : Type} {allowed : Command → Prop}

/-- An act that is put together from others, none of which takes a lock or gives one up, and runs
only commands that are allowed. -/
inductive Within (allowed : Command → Prop) : {α : Type} → Act ω α → Prop where
  | pure {α : Type} (a : α) : Within allowed (pure a)
  | bind {α β : Type} {x : Act ω α} {f : α → Act ω β} (before : Within allowed x)
      (after : ∀ a, Within allowed (f a)) : Within allowed (x >>= f)
  | exec {command : Command} (allows : allowed command) : Within allowed (exec command)
  | pathExists (path : String) : Within allowed (pathExists path)
  | makeDirectories (path : String) : Within allowed (makeDirectories path)
  | pause (duration : Nat) : Within allowed (pause duration)
  | now : Within allowed now

/-! ## What is true of such acts -/

theorem Within.only {act : Act ω α} (within : act.Within allowed) : act.Only allowed := by
  induction within with
  | pure a => exact always_pure a
  | bind before after first second => exact first.bind second
  | exec allows => exact only_exec allows
  | pathExists path => exact always_pathExists path
  | makeDirectories path => exact always_makeDirectories path
  | pause duration => exact always_pause duration
  | now => exact always_now

theorem Within.lockless {act : Act ω α} (within : act.Within allowed) :
    act.Emits fun events _ => Lockless events := by
  induction within with
  | pure a => exact emits_pure lockless_nil
  | bind before after first second =>
    exact first.bind fun a _ earlier => (second a).mono fun _ _ later => later.append earlier
  | exec allows => exact (emits_exec _).mono fun _ _ single => single ▸ lockless_single nofun nofun
  | pathExists path =>
    exact (emits_pathExists path).mono fun _ _ single => single ▸ lockless_single nofun nofun
  | makeDirectories path =>
    exact (emits_makeDirectories path).mono fun _ _ single => single ▸ lockless_single nofun nofun
  | pause duration =>
    exact (emits_pause duration).mono fun _ _ single => single ▸ lockless_single nofun nofun
  | now => exact emits_now.mono fun _ _ none => none ▸ lockless_nil

/-- The locks are left alone. -/
theorem Within.locks {act : Act ω α} (within : act.Within allowed) (host : Host ω)
    (s : Session ω) : (act.perform host s).2.locks = s.locks := by
  induction within generalizing s with
  | bind before after first second => exact (second _ _).trans (first s)
  | _ => rfl

theorem Within.imp {act : Act ω α} {weaker : Command → Prop} (within : act.Within allowed)
    (implies : ∀ c, allowed c → weaker c) : act.Within weaker := by
  induction within with
  | pure a => exact .pure a
  | bind before after first second => exact first.bind second
  | exec allows => exact .exec (implies _ allows)
  | pathExists path => exact .pathExists path
  | makeDirectories path => exact .makeDirectories path
  | pause duration => exact .pause duration
  | now => exact .now

/-! ## Acts that may fail -/

theorem within_ok (a : α) : Within allowed (Pure.pure a : ExceptT ε (Act ω) α).run :=
  .pure (α := Except ε α) _

theorem within_error (e : ε) : Within allowed (throw e : ExceptT ε (Act ω) α).run :=
  .pure (α := Except ε α) _

theorem Within.lift {x : Act ω α} (within : x.Within allowed) :
    Within allowed (ExceptT.lift x : ExceptT ε (Act ω) α).run := by
  rw [ExceptT.run_lift, map_eq_pure_bind]
  exact within.bind fun _ => .pure _

theorem Within.andThen {x : ExceptT ε (Act ω) α} {f : α → ExceptT ε (Act ω) β}
    (before : Within allowed x.run) (after : ∀ a, Within allowed (f a).run) :
    Within allowed (x >>= f).run := by
  rw [ExceptT.run_bind]
  apply before.bind
  intro result
  cases result with
  | ok a => exact after a
  | error e => exact .pure _

theorem Within.tryCatch {x : ExceptT ε (Act ω) α} {handle : ε → ExceptT ε (Act ω) α}
    (before : Within allowed x.run) (handled : ∀ e, Within allowed (handle e).run) :
    Within allowed (MonadExcept.tryCatch x handle).run := by
  rw [ExceptT.run_tryCatch]
  apply before.bind
  intro result
  cases result with
  | ok a => exact .pure _
  | error e => exact handled e

/-- Checks and pauses in turn, as often as it may be. -/
theorem within_pollFrom (p : Poller) {check : Act ω Bool} (checks : check.Within allowed)
    (remaining : Nat) : Within allowed (p.pollFrom Act.pause check remaining) := by
  induction remaining using Nat.strongRecOn with
  | ind remaining ih =>
    rw [Poller.pollFrom]
    apply checks.bind
    intro found
    split
    · exact .pure true
    · split
      · exact .pure false
      · rename_i left
        have shorter : remaining - min p.step remaining < remaining := by
          have : 1 ≤ p.step := Nat.le_max_right ..
          omega
        exact (Within.pause _).bind fun _ => ih _ shorter

theorem within_poll (p : Poller) (what : String) {check : Act ω Bool}
    (checks : check.Within allowed) : Within allowed (p.poll what Act.pause check) := by
  unfold Poller.poll
  apply (within_pollFrom p checks p.timeout).bind
  intro found
  split
  · exact .pure _
  · exact .pure _

end Act

/-! ## Parts of an addition -/

namespace Lifecycle.Adding

open Act (Gives RunsOnly)

variable {ω α β ε : Type} {allowed : Command → Prop} {kept : Progress → Prop}

/-- A part of an addition that is put together from such acts, and keeps a property of the
progress. -/
structure Within (part : Adding ω α) (allowed : Command → Prop) (kept : Progress → Prop) :
    Prop where
  within : ∀ progress, Act.Within allowed (part.run.run progress)
  gives : ∀ progress, kept progress → part.Gives progress fun _ after => kept after

theorem Within.keeps {part : Adding ω α} (within : part.Within allowed kept) :
    part.Keeps (RunsOnly allowed) kept :=
  fun progress before => (within.within progress).only.gives (within.gives progress before)

theorem within_pure (a : α) : Within (pure a : Adding ω α) allowed kept :=
  ⟨fun _ => .pure _, fun _ before => gives_pure before⟩

theorem within_throw (e : Error) : Within (throw e : Adding ω α) allowed kept :=
  ⟨fun _ => .pure _, fun _ before => gives_throw before⟩

theorem within_get : Within (get : Adding ω Progress) allowed kept :=
  ⟨fun _ => .pure _, fun _ before _ _ => before⟩

theorem within_modify {change : Progress → Progress} (keeps : ∀ p, kept p → kept (change p)) :
    Within (modify change : Adding ω Unit) allowed kept :=
  ⟨fun _ => .pure _, fun _ before _ _ => keeps _ before⟩

theorem Within.bind {x : Adding ω α} {f : α → Adding ω β} (before : x.Within allowed kept)
    (after : ∀ a, (f a).Within allowed kept) : Within (x >>= f) allowed kept := by
  constructor
  · intro progress
    rw [ExceptT.run_bind, StateT.run_bind]
    apply (before.within progress).bind
    intro result
    obtain ⟨result, between⟩ := result
    cases result with
    | ok a => exact (after a).within between
    | error e => exact .pure _
  · intro progress first
    exact (before.gives progress first).bind (fun a between => (after a).gives between)
      fun _ _ between => between

theorem within_lift {act : Act ω α} (within : act.Within allowed) :
    Within (lift act) allowed kept := by
  constructor
  · intro progress
    unfold lift
    rw [ExceptT.run_lift, StateT.run_map, StateT.run_lift, map_eq_pure_bind, bind_assoc]
    exact within.bind fun _ => .pure _
  · exact fun _ before _ _ => before

theorem within_attempt {act : ExceptT ε (Act ω) α} (within : Act.Within allowed act.run)
    (blame : ε → Error) : Within (attempt act blame) allowed kept := by
  apply (within_lift within).bind
  intro result
  cases result with
  | ok a => exact within_pure a
  | error e => exact within_throw _

end Lifecycle.Adding

end Worktop

import Worktop.Lifecycle.Add

/-! # Performing acts step by step

Where the host is known, an act can be followed from state to state: the outcome of a sequence of
acts is read off the outcomes of its parts (`Worktop.Act.perform_bind` and the rules after it). A
part of an addition carries its progress along as well.
-/

namespace Worktop.Act

variable {ω α β ε : Type} {host : Host ω} {s s' : Session ω}

theorem perform_pure (a : α) : (pure a : Act ω α).perform host s = (a, s) := rfl

theorem perform_bind {x : Act ω α} {f : α → Act ω β} {a : α}
    (first : x.perform host s = (a, s')) :
    (x >>= f).perform host s = (f a).perform host s' := by
  change (f (x.perform host s).1).perform host (x.perform host s).2 = _
  rw [first]

theorem perform_bind_ok {x : ExceptT ε (Act ω) α} {f : α → ExceptT ε (Act ω) β} {a : α}
    (first : x.run.perform host s = (.ok a, s')) :
    (x >>= f).run.perform host s = (f a).run.perform host s' := by
  rw [ExceptT.run_bind, perform_bind first]

theorem perform_bind_error {x : ExceptT ε (Act ω) α} {f : α → ExceptT ε (Act ω) β} {e : ε}
    (first : x.run.perform host s = (.error e, s')) :
    (x >>= f).run.perform host s = (.error e, s') := by
  rw [ExceptT.run_bind, perform_bind first]
  rfl

theorem perform_lift {x : Act ω α} {a : α} (first : x.perform host s = (a, s')) :
    (ExceptT.lift x : ExceptT ε (Act ω) α).run.perform host s = (.ok a, s') := by
  rw [ExceptT.run_lift, map_eq_pure_bind, perform_bind first]
  rfl

theorem perform_lift_bind {x : Act ω α} {f : α → ExceptT ε (Act ω) β} {a : α}
    (first : x.perform host s = (a, s')) :
    (ExceptT.lift x >>= f).run.perform host s = (f a).run.perform host s' :=
  perform_bind_ok (perform_lift first)

theorem perform_exec {command : Command} {answer : Except SystemError Output} {outside : ω}
    {files : FileSystem}
    (answered : host.answer command s.outside s.files = (answer, outside, files)) :
    let reply := answer.mapError fun reason => { program := command.program, reason }
    (exec command).perform host s =
      (reply, { s with outside, files }.note (.ran command reply)) := by
  change exec command host s = _
  unfold exec
  rw [answered]

theorem perform_acquire {table : LockTable} {branch : String} {guard : Guard} {locks : Locks}
    {files : FileSystem}
    (taken : s.locks.acquire s.files table branch = (.ok guard, locks, files)) :
    (acquire table branch).perform host s =
      (.ok guard, { s with locks, files }.note (.locked guard)) := by
  change acquire table branch host s = _
  unfold acquire
  rw [taken]

theorem perform_acquire_error {table : LockTable} {branch : String} {e : LockError} {locks : Locks}
    {files : FileSystem}
    (refused : s.locks.acquire s.files table branch = (.error e, locks, files)) :
    (acquire table branch).perform host s =
      (.error e, { s with locks, files }.note (.refused e)) := by
  change acquire table branch host s = _
  unfold acquire
  rw [refused]

end Worktop.Act

namespace Worktop.Lifecycle.Adding

open Worktop.Act

variable {ω α β ε : Type} {host : Host ω} {s s' : Session ω} {progress progress' : Progress}

theorem perform_bind_ok {x : Adding ω α} {f : α → Adding ω β} {a : α}
    (first : (x.run.run progress).perform host s = ((.ok a, progress'), s')) :
    ((x >>= f).run.run progress).perform host s = ((f a).run.run progress').perform host s' := by
  rw [ExceptT.run_bind, StateT.run_bind, perform_bind first]

theorem perform_bind_error {x : Adding ω α} {f : α → Adding ω β} {e : Error}
    (first : (x.run.run progress).perform host s = ((.error e, progress'), s')) :
    ((x >>= f).run.run progress).perform host s = ((.error e, progress'), s') := by
  rw [ExceptT.run_bind, StateT.run_bind, perform_bind first]
  rfl

/-- Where a sequence of parts fails, one of them does. -/
theorem failed_of_bind {x : Adding ω α} {f : α → Adding ω β} {e : Error}
    (failed : ((x >>= f).run.run progress).perform host s = ((.error e, progress'), s')) :
    (x.run.run progress).perform host s = ((.error e, progress'), s') ∨
      ∃ a between s1, (x.run.run progress).perform host s = ((.ok a, between), s1) ∧
        ((f a).run.run between).perform host s1 = ((.error e, progress'), s') := by
  cases first : (x.run.run progress).perform host s with
  | mk result s1 =>
  obtain ⟨result, between⟩ := result
  cases result with
  | ok a =>
    rw [perform_bind_ok first] at failed
    exact .inr ⟨a, between, s1, rfl, failed⟩
  | error e' =>
    rw [perform_bind_error first] at failed
    cases failed
    exact .inl rfl

theorem perform_lift {act : Act ω α} {a : α} (first : act.perform host s = (a, s')) :
    ((lift act).run.run progress).perform host s = ((.ok a, progress), s') := by
  unfold lift
  rw [ExceptT.run_lift, StateT.run_map, StateT.run_lift, map_eq_pure_bind, bind_assoc,
    perform_bind first]
  rfl

theorem perform_lift_bind {act : Act ω α} {f : α → Adding ω β} {a : α}
    (first : act.perform host s = (a, s')) :
    ((lift act >>= f).run.run progress).perform host s =
      ((f a).run.run progress).perform host s' :=
  perform_bind_ok (perform_lift first)

end Worktop.Lifecycle.Adding

import Worktop.Lifecycle.Add

/-! # What acts leave in the journal

An act is a function, so all that can be said of it for every host is which events it may add to the
journal and what it may give with them (`Worktop.Act.Emits`). Such a statement about a sequence of
acts comes from one about each of them (`Worktop.Act.Emits.bind`), and the same holds for acts that
may fail and for the parts of an addition.
-/

namespace Worktop.Act

variable {ω α β ε : Type}

/-- Whatever the outside answers, the events that an act adds to the journal, latest first, and what
it gives are as `spec` says. -/
def Emits (act : Act ω α) (spec : List Event → α → Prop) : Prop :=
  ∀ (host : Host ω) (s : Session ω), ∃ events,
    (act.perform host s).2.journal = events ++ s.journal ∧ spec events (act.perform host s).1

theorem Emits.mono {act : Act ω α} {first second : List Event → α → Prop}
    (emits : act.Emits first) (implies : ∀ events a, first events a → second events a) :
    act.Emits second := by
  intro host s
  obtain ⟨events, journal, holds⟩ := emits host s
  exact ⟨events, journal, implies _ _ holds⟩

theorem Emits.and {act : Act ω α} {first second : List Event → α → Prop}
    (left : act.Emits first) (right : act.Emits second) :
    act.Emits fun events a => first events a ∧ second events a := by
  intro host s
  obtain ⟨events, journal, holds⟩ := left host s
  obtain ⟨events', journal', holds'⟩ := right host s
  have same : events' = events := List.append_cancel_right (journal'.symm.trans journal)
  exact ⟨events, journal, holds, same ▸ holds'⟩

theorem Emits.bind {x : Act ω α} {f : α → Act ω β} {first : List Event → α → Prop}
    {spec : List Event → β → Prop} (before : x.Emits first)
    (after : ∀ a old, first old a → (f a).Emits fun new b => spec (new ++ old) b) :
    Act.Emits (x >>= f) spec := by
  intro host s
  obtain ⟨old, journal, holds⟩ := before host s
  obtain ⟨new, journal', holds'⟩ := after _ old holds host (x.perform host s).2
  refine ⟨new ++ old, ?_, holds'⟩
  rw [List.append_assoc, ← journal]
  exact journal'

theorem emits_pure {spec : List Event → α → Prop} {a : α} (holds : spec [] a) :
    Emits (pure a : Act ω α) spec :=
  fun _ _ => ⟨[], rfl, holds⟩

/-! ## The acts themselves -/

theorem emits_exec (command : Command) :
    Emits (exec command : Act ω Reply) fun events reply => events = [.ran command reply] :=
  fun _ _ => ⟨_, rfl, rfl⟩

theorem emits_pathExists (path : String) :
    Emits (pathExists path : Act ω Bool) fun events found => events = [.looked path found] :=
  fun _ _ => ⟨_, rfl, rfl⟩

theorem emits_makeDirectories (path : String) :
    Emits (makeDirectories path : Act ω (Except SystemError Unit)) fun events made =>
      events = [.madeDirectories path made.isOk] :=
  fun _ _ => ⟨_, rfl, rfl⟩

theorem emits_pause (duration : Nat) :
    Emits (pause duration : Act ω Unit) fun events _ => events = [.paused duration] :=
  fun _ _ => ⟨_, rfl, rfl⟩

theorem emits_now : Emits (now : Act ω Nat) fun events _ => events = [] :=
  fun _ _ => ⟨[], rfl, rfl⟩

theorem emits_acquire (table : LockTable) (branch : String) :
    Emits (acquire table branch : Act ω (Except LockError Guard)) fun events guard? =>
      events = [match guard? with | .ok guard => .locked guard | .error e => .refused e] :=
  fun _ _ => ⟨_, rfl, rfl⟩

theorem emits_release (guard : Guard) :
    Emits (release guard : Act ω Unit) fun events _ => events = [.released guard] :=
  fun _ _ => ⟨_, rfl, rfl⟩

/-! ## Acts that may fail -/

theorem emits_ok {spec : List Event → Except ε α → Prop} {a : α} (holds : spec [] (.ok a)) :
    Emits (pure a : ExceptT ε (Act ω) α).run spec :=
  emits_pure holds

theorem emits_error {spec : List Event → Except ε α → Prop} {e : ε} (holds : spec [] (.error e)) :
    Emits (throw e : ExceptT ε (Act ω) α).run spec :=
  emits_pure holds

theorem Emits.lift {x : Act ω α} {spec : List Event → Except ε α → Prop}
    (emits : x.Emits fun events a => spec events (.ok a)) :
    Emits (ExceptT.lift x : ExceptT ε (Act ω) α).run spec := by
  rw [ExceptT.run_lift, map_eq_pure_bind]
  exact emits.bind fun _ _ holds => emits_pure holds

/-- An act that may fail and another after it, which is done only where the first succeeded. -/
theorem Emits.andThen {x : ExceptT ε (Act ω) α} {f : α → ExceptT ε (Act ω) β}
    {first : List Event → Except ε α → Prop} {spec : List Event → Except ε β → Prop}
    (before : Emits x.run first)
    (after : ∀ a old, first old (.ok a) → Emits (f a).run fun new b => spec (new ++ old) b)
    (failed : ∀ e old, first old (.error e) → spec old (.error e)) :
    Emits (x >>= f).run spec := by
  rw [ExceptT.run_bind]
  apply before.bind
  intro result old holds
  cases result with
  | ok a => exact after a old holds
  | error e => exact emits_pure (failed e old holds)

theorem Emits.tryCatch {x : ExceptT ε (Act ω) α} {handle : ε → ExceptT ε (Act ω) α}
    {first : List Event → Except ε α → Prop} {spec : List Event → Except ε α → Prop}
    (before : Emits x.run first) (done : ∀ a old, first old (.ok a) → spec old (.ok a))
    (handled : ∀ e old, first old (.error e) →
      Emits (handle e).run fun new b => spec (new ++ old) b) :
    Emits (MonadExcept.tryCatch x handle).run spec := by
  rw [ExceptT.run_tryCatch]
  apply before.bind
  intro result old holds
  cases result with
  | ok a => exact emits_pure (done a old holds)
  | error e => exact handled e old holds

/-- An act leaves one event, and what follows depends on what it gave. -/
theorem emits_single {x : Act ω β} {event : β → Event} {f : β → ExceptT ε (Act ω) α}
    {spec : List Event → Except ε α → Prop}
    (single : x.Emits fun events b => events = [event b])
    (after : ∀ b, Emits (f b).run fun new a => spec (new ++ [event b]) a) :
    Emits (ExceptT.lift x >>= f).run spec := by
  have lifted : Emits (ExceptT.lift x : ExceptT ε (Act ω) β).run
      fun events result => ∃ b, events = [event b] ∧ result = .ok b :=
    Emits.lift (single.mono fun _ b left => ⟨b, left, rfl⟩)
  refine lifted.andThen ?_ ?_
  · intro b old given
    obtain ⟨_, rfl, same⟩ := given
    cases same
    exact after b
  · intro e old given
    obtain ⟨_, _, same⟩ := given
    cases same

theorem emits_reply {command : Command} {f : Reply → ExceptT ε (Act ω) α}
    {spec : List Event → Except ε α → Prop}
    (after : ∀ reply, Emits (f reply).run fun new a => spec (new ++ [.ran command reply]) a) :
    Emits (ExceptT.lift (exec command) >>= f).run spec :=
  emits_single (emits_exec command) after

theorem emits_look {path : String} {f : Bool → ExceptT ε (Act ω) α}
    {spec : List Event → Except ε α → Prop}
    (after : ∀ found, Emits (f found).run fun new a => spec (new ++ [.looked path found]) a) :
    Emits (ExceptT.lift (pathExists path) >>= f).run spec :=
  emits_single (emits_pathExists path) after

theorem reply_of_ok {reply : Reply} {output : Output} {blame : SpawnError → ε}
    (same : .ok output = reply.mapError blame) : reply = .ok output := by
  cases reply with
  | ok other => cases same; rfl
  | error e => cases same

/-- Nothing follows a failure. -/
theorem throw_bind (e : ε) (f : α → ExceptT ε (Act ω) β) :
    ((throw e : ExceptT ε (Act ω) α) >>= f) = throw e := rfl

/-! ## What acts give -/

/-- Whatever the outside answers, what an act gives has a property. -/
def Gives (act : Act ω α) (given : α → Prop) : Prop :=
  ∀ (host : Host ω) (s : Session ω), given (act.perform host s).1

theorem Emits.gives {act : Act ω α} {spec : List Event → α → Prop} {given : α → Prop}
    (emits : act.Emits spec) (gives : act.Gives given) :
    act.Emits fun events a => spec events a ∧ given a := by
  intro host s
  obtain ⟨events, journal, holds⟩ := emits host s
  exact ⟨events, journal, holds, gives host s⟩

theorem Gives.bind {x : Act ω α} {f : α → Act ω β} {first : α → Prop} {given : β → Prop}
    (before : x.Gives first) (after : ∀ a, first a → (f a).Gives given) :
    Act.Gives (x >>= f) given :=
  fun host s => after _ (before host s) host (x.perform host s).2

/-- What the last of two acts gives is all that counts. -/
theorem gives_bind {x : Act ω α} {f : α → Act ω β} {given : β → Prop}
    (after : ∀ a, (f a).Gives given) : Act.Gives (x >>= f) given :=
  fun host s => after _ host (x.perform host s).2

theorem Gives.andThen {x : ExceptT ε (Act ω) α} {f : α → ExceptT ε (Act ω) β}
    {first : Except ε α → Prop} {given : Except ε β → Prop} (before : Gives x.run first)
    (after : ∀ a, first (.ok a) → Gives (f a).run given)
    (failed : ∀ e, first (.error e) → given (.error e)) : Gives (x >>= f).run given := by
  rw [ExceptT.run_bind]
  refine Gives.bind before ?_
  intro result holds
  cases result with
  | ok a => exact after a holds
  | error e => exact fun _ _ => failed e holds

theorem gives_andThen {x : ExceptT ε (Act ω) α} {f : α → ExceptT ε (Act ω) β}
    {given : Except ε β → Prop} (after : ∀ a, Gives (f a).run given)
    (failed : ∀ e, given (.error e)) : Gives (x >>= f).run given := by
  rw [ExceptT.run_bind]
  apply gives_bind
  intro result
  cases result with
  | ok a => exact after a
  | error e => exact fun _ _ => failed e

theorem gives_lift_bind {x : Act ω α} {f : α → ExceptT ε (Act ω) β} {given : Except ε β → Prop}
    (after : ∀ a, Gives (f a).run given) : Gives (ExceptT.lift x >>= f).run given :=
  fun host s => after _ host (x.perform host s).2

theorem gives_ok {given : Except ε α → Prop} {a : α} (holds : given (.ok a)) :
    Gives (pure a : ExceptT ε (Act ω) α).run given :=
  fun _ _ => holds

theorem gives_error {given : Except ε α → Prop} {e : ε} (holds : given (.error e)) :
    Gives (throw e : ExceptT ε (Act ω) α).run given :=
  fun _ _ => holds

/-! ## What holds of all that an act does -/

/-- A property of events, latest first, that holds of some after others if it holds of both, and
that only commands can break. -/
class Composable (holds : List Event → Prop) : Prop where
  quiet : ∀ {events}, (∀ command reply, .ran command reply ∉ events) → holds events
  append : ∀ {new old}, holds new → holds old → holds (new ++ old)

/-- Whatever the outside answers, the events of an act have a property. -/
def Always (act : Act ω α) (holds : List Event → Prop) : Prop :=
  act.Emits fun events _ => holds events

/-- The events of an act are those that it adds to the journal. -/
theorem Always.of_journal {act : Act ω α} {holds : List Event → Prop} (always : act.Always holds)
    {host : Host ω} {s : Session ω} {events : List Event}
    (journal : (act.perform host s).2.journal = events ++ s.journal) : holds events := by
  obtain ⟨events', journal', holds'⟩ := always host s
  have same : events' = events := List.append_cancel_right (journal'.symm.trans journal)
  exact same ▸ holds'

/-- Only commands that are allowed are run. -/
def RunsOnly (allowed : Command → Prop) (events : List Event) : Prop :=
  ∀ command reply, .ran command reply ∈ events → allowed command

instance (allowed : Command → Prop) : Composable (RunsOnly allowed) where
  quiet := fun silent command reply member => (silent command reply member).elim
  append := by
    intro new old later earlier command reply member
    rcases List.mem_append.mp member with inNew | inOld
    · exact later command reply inNew
    · exact earlier command reply inOld

/-- Whatever the outside answers, an act runs only commands that are allowed. -/
abbrev Only (act : Act ω α) (allowed : Command → Prop) : Prop :=
  act.Always (RunsOnly allowed)

theorem RunsOnly.imp {allowed weaker : Command → Prop} {events : List Event}
    (runs : RunsOnly allowed events) (implies : ∀ c, allowed c → weaker c) :
    RunsOnly weaker events :=
  fun command reply member => implies command (runs command reply member)

theorem runsOnly_ran {allowed : Command → Prop} {command : Command} (allows : allowed command)
    (reply : Reply) : RunsOnly allowed [.ran command reply] := by
  intro _ _ member
  cases List.mem_singleton.mp member
  exact allows

theorem runsOnly_quiet {allowed : Command → Prop} (event : Event)
    (quiet : ∀ command reply, event ≠ .ran command reply) : RunsOnly allowed [event] :=
  fun command reply member => absurd (List.mem_singleton.mp member).symm (quiet command reply)

theorem Only.imp {act : Act ω α} {allowed weaker : Command → Prop} (only : act.Only allowed)
    (implies : ∀ c, allowed c → weaker c) : act.Only weaker :=
  Emits.mono only fun _ _ runs => runs.imp implies

section Always

variable {holds : List Event → Prop} [composable : Composable holds]

theorem Composable.nil : holds [] :=
  composable.quiet fun _ _ => List.not_mem_nil

/-- An act that leaves a single event, and runs no command. -/
theorem Emits.always {act : Act ω α} {event : α → Event}
    (emits : act.Emits fun events a => events = [event a])
    (silent : ∀ a command reply, event a ≠ .ran command reply) : act.Always holds := by
  refine emits.mono fun events a single => composable.quiet fun command reply member => ?_
  rw [single, List.mem_singleton] at member
  exact silent a command reply member.symm

theorem Always.bind {x : Act ω α} {f : α → Act ω β} (before : x.Always holds)
    (after : ∀ a, (f a).Always holds) : Act.Always (x >>= f) holds :=
  Emits.bind before fun a _ first =>
    (after a).mono fun _ _ second => composable.append second first

theorem always_pure (a : α) : Always (pure a : Act ω α) holds :=
  emits_pure Composable.nil

theorem always_pathExists (path : String) : Always (pathExists path : Act ω Bool) holds :=
  (emits_pathExists path).always fun _ _ _ same => by cases same

theorem always_makeDirectories (path : String) :
    Always (makeDirectories path : Act ω (Except SystemError Unit)) holds :=
  (emits_makeDirectories path).always fun _ _ _ same => by cases same

theorem always_pause (duration : Nat) : Always (pause duration : Act ω Unit) holds :=
  (emits_pause duration).always fun _ _ _ same => by cases same

theorem always_now : Always (now : Act ω Nat) holds :=
  emits_now.mono fun _ _ none => none ▸ Composable.nil

theorem always_acquire (table : LockTable) (branch : String) :
    Always (acquire table branch : Act ω (Except LockError Guard)) holds := by
  apply (emits_acquire table branch).always
  intro guard? _ _
  cases guard? with
  | ok guard => exact fun same => by cases same
  | error e => exact fun same => by cases same

theorem always_release (guard : Guard) : Always (release guard : Act ω Unit) holds :=
  (emits_release guard).always fun _ _ _ same => by cases same

/-- What holds of all that an act does holds as well where it is done under a lock, or refused. -/
theorem Always.locked {act : Act ω α} {table : LockTable} {branch : String}
    (refuse : LockError → α) (always : act.Always holds) :
    Act.Always (acquire table branch >>= fun
      | .error e => pure (refuse e)
      | .ok guard => act >>= fun a => release guard >>= fun _ => pure a) holds := by
  apply (always_acquire table branch).bind
  intro guard?
  cases guard? with
  | error e => exact always_pure _
  | ok guard =>
    apply always.bind
    intro a
    exact (always_release guard).bind fun _ => always_pure a

theorem always_ok (a : α) : Always (pure a : ExceptT ε (Act ω) α).run holds :=
  always_pure _

theorem always_error (e : ε) : Always (throw e : ExceptT ε (Act ω) α).run holds :=
  always_pure (α := Except ε α) _

omit composable in
theorem Always.lift {x : Act ω α} (always : x.Always holds) :
    Always (ExceptT.lift x : ExceptT ε (Act ω) α).run holds :=
  Emits.lift always

theorem Always.andThen {x : ExceptT ε (Act ω) α} {f : α → ExceptT ε (Act ω) β}
    (before : Always x.run holds) (after : ∀ a, Always (f a).run holds) :
    Always (x >>= f).run holds := by
  rw [ExceptT.run_bind]
  apply before.bind
  intro result
  cases result with
  | ok a => exact after a
  | error e => exact always_pure _

end Always

variable {allowed : Command → Prop}

theorem only_exec {command : Command} (allows : allowed command) :
    Only (exec command : Act ω Reply) allowed := by
  apply (emits_exec command).mono
  rintro _ reply rfl
  exact runsOnly_ran allows reply

end Worktop.Act

namespace Worktop.Lifecycle.Adding

open Worktop.Act

variable {ω α β ε : Type}

/-- What a part of an addition may do from some progress on: the events it adds to the journal, what
it gives, and the progress after it. -/
def Emits (part : Adding ω α) (progress : Progress)
    (spec : List Event → Except Error α → Progress → Prop) : Prop :=
  Act.Emits (part.run.run progress) fun events result => spec events result.1 result.2

theorem emits_pure {progress : Progress} {a : α}
    {spec : List Event → Except Error α → Progress → Prop} (holds : spec [] (.ok a) progress) :
    Emits (pure a : Adding ω α) progress spec :=
  Act.emits_pure holds

theorem emits_throw {progress : Progress} {e : Error}
    {spec : List Event → Except Error α → Progress → Prop} (holds : spec [] (.error e) progress) :
    Emits (throw e : Adding ω α) progress spec :=
  Act.emits_pure holds

theorem Emits.mono {part : Adding ω α} {progress : Progress}
    {first second : List Event → Except Error α → Progress → Prop}
    (emits : part.Emits progress first)
    (implies : ∀ events result after, first events result after → second events result after) :
    part.Emits progress second :=
  Act.Emits.mono emits fun events result => implies events result.1 result.2

theorem Emits.bind {x : Adding ω α} {f : α → Adding ω β} {progress : Progress}
    {first : List Event → Except Error α → Progress → Prop}
    {spec : List Event → Except Error β → Progress → Prop} (before : x.Emits progress first)
    (after : ∀ a progress old, first old (.ok a) progress →
      (f a).Emits progress fun new b progress => spec (new ++ old) b progress)
    (failed : ∀ e progress old, first old (.error e) progress → spec old (.error e) progress) :
    Emits (x >>= f) progress spec := by
  unfold Emits
  rw [ExceptT.run_bind, StateT.run_bind]
  apply Act.Emits.bind before
  intro result old holds
  obtain ⟨result, progress⟩ := result
  cases result with
  | ok a => exact after a progress old holds
  | error e => exact Act.emits_pure (failed e progress old holds)

theorem emits_lift {act : Act ω α} {progress : Progress} {first : List Event → α → Prop}
    {spec : List Event → Except Error α → Progress → Prop} (emits : act.Emits first)
    (holds : ∀ events a, first events a → spec events (.ok a) progress) :
    Emits (lift act) progress spec := by
  unfold Emits lift
  rw [ExceptT.run_lift, StateT.run_map, StateT.run_lift, map_eq_pure_bind, bind_assoc]
  exact Act.Emits.bind emits fun a events first => Act.emits_pure (holds events a first)

/-- An act is done, and what follows depends on what it gave. -/
theorem emits_lift_bind {act : Act ω α} {f : α → Adding ω β} {progress : Progress}
    {first : List Event → α → Prop} {spec : List Event → Except Error β → Progress → Prop}
    (before : act.Emits first)
    (after : ∀ a old, first old a →
      (f a).Emits progress fun new b after => spec (new ++ old) b after) :
    Emits (lift act >>= f) progress spec := by
  have lifted : Emits (lift act) progress fun events result after =>
      after = progress ∧ ∃ a, result = .ok a ∧ first events a :=
    emits_lift before fun events a holds => ⟨rfl, a, rfl, holds⟩
  refine Emits.bind lifted ?_ ?_
  · intro a _ old given
    obtain ⟨rfl, _, same, holds⟩ := given
    cases same
    exact after a old holds
  · intro e _ old given
    obtain ⟨_, _, same, _⟩ := given
    cases same

/-- An act is attempted, and what follows is done only where it succeeded. -/
theorem emits_attempt_bind {act : ExceptT ε (Act ω) α} {blame : ε → Error} {f : α → Adding ω β}
    {progress : Progress} {first : List Event → Except ε α → Prop}
    {spec : List Event → Except Error β → Progress → Prop} (before : Act.Emits act.run first)
    (after : ∀ a old, first old (.ok a) →
      (f a).Emits progress fun new b after => spec (new ++ old) b after)
    (failed : ∀ e old, first old (.error e) → spec old (.error (blame e)) progress) :
    Emits (attempt act blame >>= f) progress spec := by
  unfold attempt
  rw [bind_assoc]
  apply emits_lift_bind before
  intro result old holds
  cases result with
  | ok a => exact after a old holds
  | error e => exact emits_throw (failed e old holds)

/-- A resource is noted, and what follows is done with the new progress. -/
theorem emits_made_bind {resource : Resource} {f : Unit → Adding ω β} {progress : Progress}
    {spec : List Event → Except Error β → Progress → Prop}
    (after : (f ()).Emits { progress with created := progress.created ++ [resource] } spec) :
    Emits (made resource >>= f) progress spec :=
  after

theorem emits_pure_bind {a : α} {f : α → Adding ω β} {progress : Progress}
    {spec : List Event → Except Error β → Progress → Prop} (after : (f a).Emits progress spec) :
    Emits (pure a >>= f) progress spec :=
  after

theorem emits_get_bind {f : Progress → Adding ω β} {progress : Progress}
    {spec : List Event → Except Error β → Progress → Prop}
    (after : (f progress).Emits progress spec) : Emits (get >>= f) progress spec :=
  after

/-! ## What parts of an addition give -/

/-- Whatever the outside answers, what a part of an addition gives from some progress on, and the
progress after it, have a property. -/
def Gives (part : Adding ω α) (progress : Progress)
    (given : Except Error α → Progress → Prop) : Prop :=
  Act.Gives (part.run.run progress) fun result => given result.1 result.2

section Gives

variable {progress : Progress} {given : Except Error β → Progress → Prop}

theorem gives_pure {b : β} (holds : given (.ok b) progress) :
    Gives (pure b : Adding ω β) progress given :=
  fun _ _ => holds

theorem gives_throw {e : Error} (holds : given (.error e) progress) :
    Gives (throw e : Adding ω β) progress given :=
  fun _ _ => holds

theorem Gives.bind {x : Adding ω α} {f : α → Adding ω β}
    {first : Except Error α → Progress → Prop} (before : x.Gives progress first)
    (after : ∀ a progress, first (.ok a) progress → (f a).Gives progress given)
    (failed : ∀ e progress, first (.error e) progress → given (.error e) progress) :
    Gives (x >>= f) progress given := by
  unfold Gives
  rw [ExceptT.run_bind, StateT.run_bind]
  refine Act.Gives.bind before ?_
  intro result holds
  obtain ⟨result, progress⟩ := result
  cases result with
  | ok a => exact after a progress holds
  | error e => exact fun _ _ => failed e progress holds

theorem gives_pure_bind {a : α} {f : α → Adding ω β} (after : (f a).Gives progress given) :
    Gives (pure a >>= f) progress given :=
  after

theorem gives_get_bind {f : Progress → Adding ω β} (after : (f progress).Gives progress given) :
    Gives (get >>= f) progress given :=
  after

theorem gives_lift_bind {act : Act ω α} {f : α → Adding ω β}
    (after : ∀ a, (f a).Gives progress given) : Gives (lift act >>= f) progress given :=
  fun host s => after _ host (act.perform host s).2

/-- An act is attempted, and what follows is done only where it succeeded. -/
theorem gives_attempt_bind {act : ExceptT ε (Act ω) α} {blame : ε → Error} {f : α → Adding ω β}
    (after : ∀ a, (f a).Gives progress given)
    (failed : ∀ e, given (.error (blame e)) progress) :
    Gives (attempt act blame >>= f) progress given := by
  unfold attempt
  rw [bind_assoc]
  apply gives_lift_bind
  intro result
  cases result with
  | ok a => exact after a
  | error e => exact gives_throw (failed e)

theorem gives_attempt {act : ExceptT ε (Act ω) β} {blame : ε → Error}
    (done : ∀ b, given (.ok b) progress) (failed : ∀ e, given (.error (blame e)) progress) :
    Gives (attempt act blame) progress given := by
  unfold attempt
  apply gives_lift_bind
  intro result
  cases result with
  | ok b => exact gives_pure (done b)
  | error e => exact gives_throw (failed e)

/-- A resource is noted, and what follows is done with the new progress. -/
theorem gives_made_bind {resource : Resource} {f : Unit → Adding ω β}
    (after : (f ()).Gives { progress with created := progress.created ++ [resource] } given) :
    Gives (made resource >>= f) progress given :=
  after

end Gives

/-! ## What parts of an addition keep -/

/-- Whatever the outside answers, the events of a part of an addition have a property, and a
property of the progress is kept. -/
def Keeps (part : Adding ω α) (holds : List Event → Prop) (kept : Progress → Prop) : Prop :=
  ∀ progress, kept progress → part.Emits progress fun events _ after => holds events ∧ kept after

variable {holds : List Event → Prop} [composable : Composable holds] {kept : Progress → Prop}

omit composable in
theorem Keeps.mono {part : Adding ω α} {stronger : List Event → Prop}
    (keeps : part.Keeps stronger kept) (implies : ∀ events, stronger events → holds events) :
    part.Keeps holds kept :=
  fun progress before => (keeps progress before).mono fun events _ _ both =>
    ⟨implies events both.1, both.2⟩

theorem Keeps.bind {x : Adding ω α} {f : α → Adding ω β} (before : x.Keeps holds kept)
    (after : ∀ a, (f a).Keeps holds kept) : Keeps (x >>= f) holds kept := by
  intro progress first
  refine Emits.bind (before progress first) ?_ fun _ _ _ holds => holds
  intro a progress' old given
  obtain ⟨oldHolds, second⟩ := given
  apply (after a progress' second).mono
  intro new _ _ newHolds
  exact ⟨composable.append newHolds.1 oldHolds, newHolds.2⟩

end Worktop.Lifecycle.Adding

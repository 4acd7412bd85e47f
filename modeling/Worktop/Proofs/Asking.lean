import Worktop.Proofs.Journal
import Worktop.Proofs.Perform
import Worktop.Rehearsal

/-! # Acts that only ask

Some acts do nothing but run commands that are known beforehand, whatever they are answered
(`Worktop.Act.Asks`). One that may fail can end early, and has run only the first of them then
(`Worktop.Act.Inquires`). All that is left behind by such an act is what the outside made of these
commands (`Worktop.Session.asked`), so one equation says at once which commands were run and what
became of the files.
-/

namespace Worktop

variable {ω α β ε : Type}

/-- What becomes of the outside and of the files while commands are answered, one after another. -/
def Host.answerAll (host : Host ω) : List Command → ω × FileSystem → ω × FileSystem
  | [], place => place
  | command :: rest, (outside, files) => host.answerAll rest (host.answer command outside files).2

namespace Session

/-- A session after commands were run, one after another. -/
def asked (s : Session ω) (host : Host ω) : List Command → Session ω
  | [] => s
  | command :: rest => ((Act.exec command).perform host s).2.asked host rest

variable {host : Host ω} {s : Session ω}

theorem asked_append (first rest : List Command) :
    s.asked host (first ++ rest) = (s.asked host first).asked host rest := by
  induction first generalizing s with
  | nil => rfl
  | cons command first ih => exact ih

theorem outside_asked (commands : List Command) :
    ((s.asked host commands).outside, (s.asked host commands).files) =
      host.answerAll commands (s.outside, s.files) := by
  induction commands generalizing s with
  | nil => rfl
  | cons command rest ih => exact ih

theorem commands_of_journal {s' : Session ω} {events : List Event}
    (journal : s'.journal = events ++ s.journal) :
    s'.commands = s.commands ++ (events.filterMap Event.command?).reverse := by
  simp [commands, journal]

theorem commands_ran (s : Session ω) (command : Command) (reply : Reply) :
    (s.note (.ran command reply)).commands = s.commands ++ [command] := by
  simp [commands, note, Event.command?]

theorem commands_asked (commands : List Command) :
    (s.asked host commands).commands = s.commands ++ commands := by
  induction commands generalizing s with
  | nil => exact (List.append_nil _).symm
  | cons command rest ih =>
    have ran : ((Act.exec command).perform host s).2.commands = s.commands ++ [command] :=
      commands_ran _ command _
    rw [asked, ih, ran, List.append_assoc, List.singleton_append]

theorem journal_asked (commands : List Command) :
    ∃ events, (s.asked host commands).journal = events ++ s.journal ∧
      Act.RunsOnly (· ∈ commands) events := by
  induction commands generalizing s with
  | nil => exact ⟨[], rfl, Act.Composable.nil⟩
  | cons command rest ih =>
    obtain ⟨events, journal, only⟩ := @ih ((Act.exec command).perform host s).2
    refine ⟨events ++ [.ran command ((Act.exec command).perform host s).1], ?_, ?_⟩
    · rw [List.append_assoc]
      exact journal
    · intro other reply member
      rcases List.mem_append.mp member with later | first
      · exact List.mem_cons_of_mem _ (only other reply later)
      · cases List.mem_singleton.mp first
        exact List.mem_cons_self

end Session

namespace Act

open Session (asked_append)

/-! ## Commands that are run in any case -/

/-- Whatever the outside answers, an act does nothing but run these commands in this order. -/
def Asks (act : Act ω α) (commands : List Command) : Prop :=
  ∀ (host : Host ω) (s : Session ω), (act.perform host s).2 = s.asked host commands

theorem asks_pure (a : α) : Asks (pure a : Act ω α) [] := fun _ _ => rfl

theorem asks_exec (command : Command) : Asks (exec command : Act ω Reply) [command] :=
  fun _ _ => rfl

theorem Asks.bind {x : Act ω α} {f : α → Act ω β} {first rest : List Command}
    (before : x.Asks first) (after : ∀ a, (f a).Asks rest) :
    Act.Asks (x >>= f) (first ++ rest) := by
  intro host s
  rw [asked_append, ← before host s]
  exact after _ host _

theorem asks_ok (a : α) : Asks (pure a : ExceptT ε (Act ω) α).run [] := fun _ _ => rfl

theorem asks_error (e : ε) : Asks (throw e : ExceptT ε (Act ω) α).run [] := fun _ _ => rfl

theorem Asks.lift {x : Act ω α} {commands : List Command} (asks : x.Asks commands) :
    Asks (ExceptT.lift x : ExceptT ε (Act ω) α).run commands := by
  intro host s
  rw [ExceptT.run_lift, map_eq_pure_bind]
  exact asks host s

/-- What follows asks nothing more, so it does not matter whether it is done. -/
theorem Asks.andThen {x : ExceptT ε (Act ω) α} {f : α → ExceptT ε (Act ω) β}
    {commands : List Command} (before : Asks x.run commands) (after : ∀ a, Asks (f a).run []) :
    Asks (x >>= f).run commands := by
  rw [ExceptT.run_bind, ← List.append_nil commands]
  apply before.bind
  intro result
  cases result with
  | ok a => exact after a
  | error e => exact asks_pure _

theorem Asks.tryCatch {x : ExceptT ε (Act ω) α} {handle : ε → ExceptT ε (Act ω) α}
    {commands : List Command} (before : Asks x.run commands)
    (handled : ∀ e, Asks (handle e).run []) :
    Asks (MonadExcept.tryCatch x handle).run commands := by
  rw [ExceptT.run_tryCatch, ← List.append_nil commands]
  apply before.bind
  intro result
  cases result with
  | ok a => exact asks_pure _
  | error e => exact handled e

/-! ## Commands that are run up to a failure -/

/-- Whatever the outside answers, an act does nothing but run these commands in this order, and all
of them unless it fails. -/
def Inquires (act : ExceptT ε (Act ω) α) (commands : List Command) : Prop :=
  ∀ (host : Host ω) (s : Session ω), ∃ asked, asked <+: commands ∧
    (act.run.perform host s).2 = s.asked host asked ∧
    ∀ a, (act.run.perform host s).1 = .ok a → asked = commands

theorem Asks.inquires {act : ExceptT ε (Act ω) α} {commands : List Command}
    (asks : Asks act.run commands) : Inquires act commands :=
  fun host s => ⟨commands, List.prefix_refl commands, asks host s, fun _ _ => rfl⟩

theorem inquires_ok (a : α) : Inquires (pure a : ExceptT ε (Act ω) α) [] :=
  (asks_ok a).inquires

theorem inquires_error (e : ε) (commands : List Command) :
    Inquires (throw e : ExceptT ε (Act ω) α) commands :=
  fun _ _ => ⟨[], List.nil_prefix, rfl, fun _ same => nomatch same⟩

theorem Inquires.andThen {x : ExceptT ε (Act ω) α} {f : α → ExceptT ε (Act ω) β}
    {first rest : List Command} (before : Inquires x first) (after : ∀ a, Inquires (f a) rest) :
    Inquires (x >>= f) (first ++ rest) := by
  intro host s
  obtain ⟨asked, front, state, whole⟩ := before host s
  cases done : x.run.perform host s with
  | mk result between =>
  rw [done] at state whole
  cases result with
  | error e =>
    rw [perform_bind_error done]
    exact ⟨asked, front.trans (List.prefix_append first rest), state, fun _ same => nomatch same⟩
  | ok a =>
    obtain rfl := whole a rfl
    obtain ⟨more, front', state', whole'⟩ := after a host between
    rw [perform_bind_ok done]
    refine ⟨asked ++ more, (List.prefix_append_right_inj asked).mpr front', ?_, ?_⟩
    · rw [state', asked_append, ← state]
    · exact fun b same => by rw [whole' b same]

theorem Inquires.only {act : ExceptT ε (Act ω) α} {commands : List Command}
    (inquires : Inquires act commands) : Only act.run (· ∈ commands) := by
  intro host s
  obtain ⟨asked, front, state, -⟩ := inquires host s
  obtain ⟨events, journal, only⟩ := @Session.journal_asked ω host s asked
  rw [state]
  exact ⟨events, journal, fun command reply member => front.subset (only command reply member)⟩

/-! ## One command and its reply -/

/-- Whatever the outside answers, an act does nothing but run one command, and gives what the reply
to it means. -/
def Reads (act : Act ω α) (command : Command) (meaning : Reply → α) : Prop :=
  ∀ (host : Host ω) (s : Session ω), act.perform host s =
    (meaning ((exec command).perform host s).1, s.asked host [command])

/-- Whatever the outside answers, an act runs a command before all else, and the events after that,
latest first, and what it gives are as `spec` says of the reply. -/
def Opens (act : Act ω α) (command : Command) (spec : Reply → List Event → α → Prop) : Prop :=
  ∀ (host : Host ω) (s : Session ω), ∃ later, (act.perform host s).2.journal =
      later ++ .ran command ((exec command).perform host s).1 :: s.journal ∧
    spec ((exec command).perform host s).1 later (act.perform host s).1

/-- What is made of something was made of what there is. -/
theorem exists_of_map_eq_ok {x : Except ε α} {f : α → β} {b : β} (told : x.map f = .ok b) :
    ∃ a, x = .ok a ∧ f a = b := by
  cases x with
  | ok a => exact ⟨a, rfl, Except.ok.inj told⟩
  | error e => cases told

theorem exists_of_bind_eq_ok {x : Except ε α} {f : α → Except ε β} {b : β}
    (told : x.bind f = .ok b) : ∃ a, x = .ok a ∧ f a = .ok b := by
  cases x with
  | ok a => exact ⟨a, rfl, told⟩
  | error e => cases told

section Reads

variable {command : Command}

theorem reads_reply {f : Reply → ExceptT ε (Act ω) α} {meaning : Reply → Except ε α}
    (given : ∀ reply, (f reply).run = pure (meaning reply)) :
    Reads (ExceptT.lift (exec command) >>= f).run command meaning := by
  intro host s
  have asked : (exec command).perform host s =
      (((exec command).perform host s).1, s.asked host [command]) := rfl
  rw [perform_lift_bind asked, given]
  rfl

theorem Reads.perform_eq {act : Act ω α} {meaning : Reply → α} (reads : act.Reads command meaning)
    {host : Host ω} {s : Session ω} {a : α}
    (told : meaning ((exec command).perform host s).1 = a) :
    act.perform host s = (a, s.asked host [command]) := by
  rw [reads host s, told]

theorem Reads.asks {act : Act ω α} {meaning : Reply → α} (reads : act.Reads command meaning) :
    act.Asks [command] :=
  fun host s => congrArg Prod.snd (reads host s)

theorem Reads.emits {act : Act ω α} {meaning : Reply → α} (reads : act.Reads command meaning) :
    act.Emits fun events a => ∃ reply, events = [.ran command reply] ∧ a = meaning reply := by
  intro host s
  rw [reads host s]
  exact ⟨_, rfl, _, rfl, rfl⟩

variable {x : ExceptT ε (Act ω) α} {f : α → ExceptT ε (Act ω) β} {meaning : Reply → Except ε α}

/-- What follows asks nothing more, and what it gives is told by the reply as well. -/
theorem Reads.andThen (reads : Reads x.run command meaning) {told : Reply → Except ε β}
    (after : ∀ reply a, meaning reply = .ok a → (f a).run = pure (told reply))
    (failed : ∀ reply e, meaning reply = .error e → told reply = .error e) :
    Reads (x >>= f).run command told := by
  intro host s
  have first := reads host s
  cases read : meaning ((exec command).perform host s).1 with
  | ok a =>
    rw [read] at first
    rw [perform_bind_ok first, after _ a read]
    rfl
  | error e =>
    rw [read] at first
    rw [perform_bind_error first, failed _ e read]

/-- What is read is made something of. -/
theorem Reads.map (reads : Reads x.run command meaning) (given : α → β) :
    Reads (x >>= fun a => pure (given a)).run command fun reply => (meaning reply).map given := by
  refine reads.andThen ?_ ?_
  · intro reply a told
    rw [told]
    rfl
  · intro reply e told
    rw [told]
    rfl

/-- The output of a command is looked at, and a failure to start it is blamed on something. -/
theorem Reads.output {x : ExceptT ε (Act ω) Output} {f : Output → ExceptT ε (Act ω) β}
    {blame : SpawnError → ε} (reads : Reads x.run command (·.mapError blame))
    {told : Reply → Except ε β} (after : ∀ output, (f output).run = pure (told (.ok output)))
    (failed : ∀ e, told (.error e) = .error (blame e)) : Reads (x >>= f).run command told := by
  refine reads.andThen ?_ ?_
  · intro reply output given
    obtain rfl := reply_of_ok given.symm
    exact after output
  · intro reply e given
    cases reply with
    | ok output => cases given
    | error spawn =>
      cases given
      exact failed spawn

/-- What follows depends on what was read, and is done only where something was. -/
theorem Reads.opens (reads : Reads x.run command meaning)
    {spec : Reply → List Event → Except ε β → Prop}
    (after : ∀ reply a, meaning reply = .ok a → Emits (f a).run (spec reply))
    (failed : ∀ reply e, meaning reply = .error e → spec reply [] (.error e)) :
    Opens (x >>= f).run command spec := by
  intro host s
  have first := reads host s
  cases told : meaning ((exec command).perform host s).1 with
  | ok a =>
    rw [told] at first
    rw [perform_bind_ok first]
    exact after _ a told host _
  | error e =>
    rw [told] at first
    rw [perform_bind_error first]
    exact ⟨[], rfl, failed _ e told⟩

theorem Opens.commands {act : Act ω α} {spec : Reply → List Event → α → Prop}
    (opens : act.Opens command spec) (host : Host ω) (s : Session ω) :
    ∃ later, (act.perform host s).2.commands =
        s.commands ++ command :: (later.filterMap Event.command?).reverse ∧
      spec ((exec command).perform host s).1 later (act.perform host s).1 := by
  obtain ⟨later, journal, holds⟩ := opens host s
  exact ⟨later, by simp [Session.commands, journal, Event.command?], holds⟩

theorem Opens.emits {act : Act ω α} {spec : Reply → List Event → α → Prop}
    (opens : act.Opens command spec) :
    act.Emits fun events a => ∃ reply later, events = later ++ [.ran command reply] ∧
      spec reply later a := by
  intro host s
  obtain ⟨later, journal, holds⟩ := opens host s
  exact ⟨later ++ [.ran command _], by rw [journal, List.append_assoc]; rfl, _, later, rfl, holds⟩

end Reads

end Act

end Worktop

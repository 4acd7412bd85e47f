import Worktop.Proofs.Journal

/-! # Commands in turn

Hooks are run and windows are killed one after another, up to the first that fails. What is left of
that is told by the outputs of the commands that exited with 0 and by the reply to the one that did
not, if there was one (`Worktop.InTurn`).
-/

namespace Worktop

/-- A command was run, and ended with exit code zero. -/
def Reply.Succeeded (reply : Reply) : Prop :=
  ∃ output, reply = .ok output ∧ output.success

/-- Some commands were run in turn, and these are the events, latest first. Those that exited with 0
gave `outputs`; with a `failure?` the next one did not, and all after it were left out. -/
structure InTurn (commands : List Command) (outputs : List Output) (failure? : Option Reply)
    (events : List Event) : Prop where
  succeeded : ∀ output ∈ outputs, output.success = true
  failed : ∀ reply ∈ failure?, ¬ reply.Succeeded
  ran : events.reverse =
    (commands.zip (outputs.map .ok ++ failure?.toList)).map fun run => .ran run.1 run.2
  /-- Without a failure none is left out. -/
  all : failure? = none → outputs.length = commands.length
  /-- The one that failed is one of them. -/
  within : failure?.isSome → outputs.length < commands.length

theorem inTurn_nil : InTurn [] [] none [] where
  succeeded := by simp
  failed := by simp
  ran := rfl
  all _ := rfl
  within := by simp

theorem inTurn_failed {command : Command} {reply : Reply} (failed : ¬ reply.Succeeded)
    (rest : List Command) : InTurn (command :: rest) [] (some reply) [.ran command reply] where
  succeeded := by simp
  failed := by simpa using failed
  ran := by simp
  all := by simp
  within := by simp

namespace InTurn

variable {commands : List Command} {outputs : List Output} {failure? : Option Reply}
  {events : List Event}

/-- One more command in front, which exited with 0. -/
theorem cons (later : InTurn commands outputs failure? events) (command : Command)
    {output : Output} (success : output.success = true) :
    InTurn (command :: commands) (output :: outputs) failure?
      (events ++ [.ran command (.ok output)]) where
  succeeded := List.forall_mem_cons.mpr ⟨success, later.succeeded⟩
  failed := later.failed
  ran := by simp [later.ran]
  all none := by simp [later.all none]
  within some := by simpa using later.within some

theorem mem_iff (inTurn : InTurn commands outputs failure? events) {event : Event} :
    event ∈ events ↔ ∃ run ∈ commands.zip (outputs.map .ok ++ failure?.toList),
      .ran run.1 run.2 = event := by
  rw [← List.mem_reverse, inTurn.ran, List.mem_map]

/-- The first command is run in any case. -/
theorem ran_first {command : Command}
    (inTurn : InTurn (command :: commands) outputs failure? events) :
    ∃ reply, .ran command reply ∈ events := by
  obtain ⟨reply, rest, replies⟩ : ∃ reply rest,
      outputs.map .ok ++ failure?.toList = reply :: rest := by
    cases outputs with
    | cons output outputs => exact ⟨_, _, rfl⟩
    | nil =>
      cases failure? with
      | some reply => exact ⟨_, _, rfl⟩
      | none => cases inTurn.all rfl
  refine ⟨reply, inTurn.mem_iff.mpr ⟨(command, reply), ?_, rfl⟩⟩
  rw [replies, List.zip_cons_cons]
  exact List.mem_cons_self

/-- The command that failed was run as well. -/
theorem ran_failure (inTurn : InTurn commands outputs failure? events) {reply : Reply}
    (failed : failure? = some reply) :
    ∃ command, commands[outputs.length]? = some command ∧ .ran command reply ∈ events := by
  have there : outputs.length < commands.length := inTurn.within (by simp [failed])
  refine ⟨commands[outputs.length], List.getElem?_eq_getElem there, inTurn.mem_iff.mpr ?_⟩
  refine ⟨(commands[outputs.length], reply), ?_, rfl⟩
  apply List.mem_of_getElem? (i := outputs.length)
  refine List.getElem?_zip_eq_some.mpr ⟨List.getElem?_eq_getElem there, ?_⟩
  simp [failed]

/-- Nothing failed exactly if all that was run exited with 0. -/
theorem failure?_eq_none_iff (inTurn : InTurn commands outputs failure? events) :
    failure? = none ↔ ∀ command reply, .ran command reply ∈ events → reply.Succeeded := by
  constructor
  · rintro rfl command reply member
    obtain ⟨run, zipped, same⟩ := inTurn.mem_iff.mp member
    obtain ⟨rfl, rfl⟩ := Event.ran.inj same
    obtain ⟨output, given, ok⟩ : ∃ output ∈ outputs, .ok output = run.2 := by
      simpa using (List.of_mem_zip zipped).2
    exact ⟨output, ok.symm, inTurn.succeeded output given⟩
  · intro successes
    cases failure? with
    | none => rfl
    | some reply =>
      obtain ⟨command, -, member⟩ := inTurn.ran_failure rfl
      exact absurd (successes command reply member) (inTurn.failed reply rfl)

end InTurn

end Worktop

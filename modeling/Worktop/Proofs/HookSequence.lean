import Worktop.Hook
import Worktop.Proofs.InTurn

/-! # Hooks up to the first that fails

What hooks have done cannot be undone, so none may run after one that failed. Main statement: the
hooks that are run, where and with which variables they are, and what is told of each
(`Worktop.Hook.runAll_stops_at_first_failure`).
-/

namespace Worktop.Hook

open Act

variable {ω : Type}

/-- An output is kept unless nothing of it is left. -/
theorem kept?_eq_filter (s : String) : kept? s = (some (truncate s)).filter (· ≠ "") := by
  by_cases empty : truncate s = "" <;> simp [kept?, Option.filter, empty]

/-- What is told of a hook that exited with 0. -/
def stepOf (index : Nat) (hook : String) (output : Output) : Step where
  index := index
  command := hook
  exitCode := some 0
  stdout := kept? output.stdout
  stderr := kept? output.stderr

/-- What is told where a hook did not exit with 0. -/
def errorOf (index : Nat) (hook : String) : Reply → Error
  | .error e => .spawn e
  | .ok output => .commandFailed index hook output.exitCode (truncate output.stderr)

/-- What is told of hooks that were run in turn, the first of which has the given index. -/
def Told (index : Nat) (hooks : List String) (outputs : List Output) :
    Option Reply → Except Error (List Step) → Prop
  | none, result =>
    result = .ok (((hooks.zip outputs).zipIdx index).map fun run => stepOf run.2 run.1.1 run.1.2)
  | some reply, result => ∃ hook, hooks[outputs.length]? = some hook ∧
      result = .error (errorOf (index + outputs.length) hook reply)

/-- A hook that succeeded is told of before those after it. -/
theorem Told.cons {index : Nat} {hooks : List String} {outputs : List Output}
    {failure? : Option Reply} {result : Except Error (List Step)}
    (later : Told (index + 1) hooks outputs failure? result) (hook : String) (output : Output) :
    Told index (hook :: hooks) (output :: outputs) failure?
      (result.map (stepOf index hook output :: ·)) := by
  cases failure? with
  | none =>
    change result = _ at later
    rw [later]
    rfl
  | some reply =>
    obtain ⟨last, there, rfl⟩ := later
    refine ⟨last, there, ?_⟩
    rw [List.length_cons, Nat.add_comm outputs.length 1, ← Nat.add_assoc]
    rfl

theorem runFrom_inTurn (directory : String) (env : Environment) (index : Nat)
    (hooks : List String) :
    Emits (runFrom directory env index hooks : ExceptT Error (Act ω) (List Step)).run
      fun events result => ∃ outputs failure?,
        InTurn (hooks.map (command · directory env)) outputs failure? events ∧
          Told index hooks outputs failure? result := by
  induction hooks generalizing index with
  | nil => exact emits_ok ⟨[], none, inTurn_nil, rfl⟩
  | cons hook rest ih =>
    unfold runFrom
    apply emits_reply
    intro reply
    cases reply with
    | error e =>
      have failed : ¬ Reply.Succeeded (.error e) := nofun
      exact emits_error ⟨[], _, inTurn_failed failed _, hook, rfl, rfl⟩
    | ok output =>
      dsimp only
      split
      · rename_i success
        have code : output.exitCode = some 0 := by simpa [Output.success] using success
        refine (ih (index + 1)).andThen ?_ ?_
        · intro steps later given
          obtain ⟨outputs, failure?, inTurn, told⟩ := given
          refine emits_ok ⟨output :: outputs, failure?, inTurn.cons _ success, ?_⟩
          rw [code]
          exact told.cons hook output
        · intro e later given
          obtain ⟨outputs, failure?, inTurn, told⟩ := given
          exact ⟨output :: outputs, failure?, inTurn.cons _ success, told.cons hook output⟩
      · rename_i failure
        have failed : ¬ Reply.Succeeded (.ok output) := by
          rintro ⟨_, same, success⟩
          cases same
          exact failure success
        exact emits_error ⟨[], _, inTurn_failed failed _, hook, rfl, rfl⟩

/-- **Hooks stop at the first failure.** The hooks are run in order, each by the shell in the same
directory and with all the variables, up to and including the first that does not exit with 0. If
all do, there is a step for each, with its index, its command, exit code 0 and what is kept of its
own outputs; else what is told is why that hook failed, by its index and its command, or that it
could not be started. -/
theorem runAll_stops_at_first_failure (hooks : List String) (directory : String)
    (env : Environment) :
    Emits (runAll hooks directory env : ExceptT Error (Act ω) (List Step)).run
      fun events result => ∃ outputs failure?,
        InTurn (hooks.map fun hook =>
          ({ program := "/bin/sh", args := ["-c", hook], directory := some directory, env } :
            Command)) outputs failure? events ∧
        (failure? = none → ∃ steps, result = .ok steps ∧ steps.length = hooks.length ∧
          ∀ (index : Nat) hook output, hooks[index]? = some hook →
            outputs[index]? = some output → steps[index]? = some
              { index, command := hook, exitCode := some 0,
                stdout := (some (truncate output.stdout)).filter (· ≠ ""),
                stderr := (some (truncate output.stderr)).filter (· ≠ "") }) ∧
        ∀ reply, failure? = some reply → ∃ hook, hooks[outputs.length]? = some hook ∧
          result = .error (match reply with
            | .error e => .spawn e
            | .ok output =>
              .commandFailed outputs.length hook output.exitCode (truncate output.stderr)) := by
  refine (runFrom_inTurn directory env 0 hooks).mono fun events result given => ?_
  obtain ⟨outputs, failure?, inTurn, told⟩ := given
  refine ⟨outputs, failure?, inTurn, ?_, ?_⟩
  · rintro rfl
    have count : outputs.length = hooks.length := by simpa using inTurn.all rfl
    refine ⟨_, told, by simp [count], fun index hook output there printed => ?_⟩
    have both : (hooks.zip outputs)[index]? = some (hook, output) :=
      List.getElem?_zip_eq_some.mpr ⟨there, printed⟩
    simp [both, stepOf, kept?_eq_filter]
  · rintro reply rfl
    obtain ⟨hook, there, same⟩ := told
    refine ⟨hook, there, ?_⟩
    rw [same, Nat.zero_add]
    cases reply <;> rfl

end Worktop.Hook

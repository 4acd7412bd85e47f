import Worktop.Session
import Worktop.Environment
import Worktop.Text.Utf8

/-!
# Hooks

Commands that run in a new worktree, one after another, up to the first that fails.
-/

namespace Worktop

namespace Hook

/-- A hook that ran and succeeded, with what it printed, where it printed more than blanks. -/
structure Step where
  index : Nat
  command : String
  exitCode : Option Int
  stdout : Option String
  stderr : Option String
  deriving DecidableEq, Repr

/-- The hooks that ran, and how long they took in microseconds. -/
structure Record where
  steps : List Step
  elapsed : Nat
  deriving DecidableEq, Repr

/-- Why a hook stopped the sequence. -/
inductive Error where
  | commandFailed (index : Nat) (command : String) (exitCode : Option Int) (stderr : String)
  | spawn (error : SpawnError)
  deriving DecidableEq, Repr

/-- An exit code, or that there is none. -/
def exitCodeText : Option Int → String
  | some code => s!"Some({code})"
  | none => "None"

/-- The text of an error. -/
def Error.message : Error → String
  | commandFailed index command exitCode stderr =>
    s!"Hook {index} (`{command}`) failed with exit code {exitCodeText exitCode}: {stderr}"
  | spawn error => error.message

/-- How many bytes of an output are kept. -/
def outputLimit : Nat := 10000

/-- What is kept of an output: all but the blanks around it, cut off behind the last whole character
within the limit.  There always is a place to cut at. -/
def truncate (s : String) : String :=
  let s := Text.trim s
  if outputLimit < Text.Utf8.size s.toList then
    (Text.Utf8.cut? outputLimit s).getD "" ++ "... [truncated]"
  else s

/-- What is kept of an output, if it is not empty. -/
def kept? (s : String) : Option String :=
  let s := truncate s
  if s.isEmpty then none else some s

/-- The command of a hook. -/
def command (hook directory : String) (env : Environment) : Command where
  program := "/bin/sh"
  args := ["-c", hook]
  directory := some directory
  env

variable {ω : Type}

/-- Runs hooks, the first of which has the given index. -/
def runFrom (directory : String) (env : Environment) :
    Nat → List String → ExceptT Error (Act ω) (List Step)
  | _, [] => pure []
  | index, hook :: rest => do
    match ← ExceptT.lift (Act.exec (command hook directory env)) with
    | .error e => throw (.spawn e)
    | .ok output =>
      if output.success then
        let step :=
          { index, command := hook, exitCode := output.exitCode,
            stdout := kept? output.stdout, stderr := kept? output.stderr }
        let steps ← runFrom directory env (index + 1) rest
        pure (step :: steps)
      else
        throw (.commandFailed index hook output.exitCode (truncate output.stderr))

/-- Runs hooks in a directory with variables set: what each gave, if all succeeded. -/
def runAll (hooks : List String) (directory : String) (env : Environment) :
    ExceptT Error (Act ω) (List Step) :=
  runFrom directory env 0 hooks

end Hook

end Worktop

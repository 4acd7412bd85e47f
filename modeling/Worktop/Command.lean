import Worktop.FileSystem.Error
import Worktop.Text.Blank
import Worktop.Text.Lines

/-!
# Commands

What is asked of the operating system to run, and what comes back.
-/

namespace Worktop

/-- A program with its arguments, the directory to run it in, and the variables to set for it; the
last of two settings of one variable counts. -/
structure Command where
  program : String
  args : List String := []
  directory : Option String := none
  env : List (String × String) := []
  deriving DecidableEq, Repr

/-- The program and its arguments. -/
def Command.argv (c : Command) : List String :=
  c.program :: c.args

/-- The program and its arguments on one line. -/
def Command.line (c : Command) : String :=
  Text.joinWith " " c.argv

/-- What a finished process left; one that a signal ended has no exit code. -/
structure Output where
  stdout : String := ""
  stderr : String := ""
  exitCode : Option Int := some 0
  deriving DecidableEq, Repr

namespace Output

/-- The process ended by itself with exit code zero. -/
def success (o : Output) : Bool :=
  o.exitCode = some 0

/-- The error output without the blanks around it. -/
def complaint (o : Output) : String :=
  Text.trim o.stderr

end Output

/-- A process could not be started. -/
structure SpawnError where
  program : String
  reason : SystemError
  deriving DecidableEq, Repr

/-- The text of the error. -/
def SpawnError.message (e : SpawnError) : String :=
  s!"Failed to spawn `{e.program}`: {e.reason.message}"

/-- The answer to a command: its output, or that it could not be started.  Only the latter is an
error here; a command that fails has an output like any other. -/
abbrev Reply := Except SpawnError Output

end Worktop

import Worktop.Command
import Worktop.Shell.Interpreter

/-!
# Launching commands

Commands run within the library: programs are those that the shell of the library knows, and all
that they touch is a file system that is a value.
-/

namespace Worktop.Launch

open Shell (Bytes Halt Machine Run)

/-- One more than the length of the longest argument of a program, in bytes. -/
def argumentLimit : Nat := 131072

/-- How deep a script may run. -/
def fuel : Nat := 10000000

/-- Whether a text cannot be handed to the operating system. -/
def hasNul (s : String) : Bool :=
  s.toList.contains '\x00'

/-- Checks the texts of a command.  A variable is handed over together with its value. -/
def checkTexts (command : Command) : Except SystemError Unit :=
  let handedOver := command.argv ++ command.env.map fun v => v.1 ++ "=" ++ v.2
  if (handedOver ++ command.directory.toList).any hasNul then .error .nulInCommand
  else if handedOver.any fun s => argumentLimit ≤ s.utf8ByteSize then .error .argumentsTooLong
  else .ok ()

/-- The file system as a process sees it that is started in a directory. -/
def enter (files : FileSystem) (directory : Option String) : Except SystemError FileSystem :=
  match directory with
  | none => .ok files
  | some path => do
    match ← files.find path with
    | (place, .directory) => .ok { files with here := place }
    | _ => .error .notDirectory

/-- Checks that there is a program of a name, or at a path, that may be run. -/
def checkProgram (files : FileSystem) (program : String) : Except SystemError Unit := do
  if (Shell.Run.toolName? program).isSome then .ok ()
  else if program.toList.contains '/' then
    let _ ← files.find program
    .error .permissionDenied
  else if FileSystem.nameLimit < program.utf8ByteSize then .error .nameTooLong
  else .error .notFound

/-- The state in which a program starts. -/
def machine (files : FileSystem) (env : Environment) (program : String) : Machine :=
  let start : Machine :=
    { files, name := Bytes.ofText program
      descriptors := [(0, .nowhere), (1, .stream 0), (2, .stream 1)], nextStream := 2 }
  let withVariables := env.foldl
    (fun m v =>
      let (name, value) := Run.splitAssignment (Bytes.ofText (v.1 ++ "=" ++ v.2))
      m.setExported name (value.getD [])) start
  withVariables.set "PWD".toList (Bytes.ofText withVariables.directory)

/-- Runs a program to its end. -/
def execute (m : Machine) (program : String) (args : List String) : Output × Machine :=
  let act := Run.start fuel (Bytes.ofText program) (args.map Bytes.ofText)
  let (result, m) := act.run m
  let exitCode :=
    match result with
    | .error (.killed _) | .error .exhausted => none
    | _ => some ((m.status % 256 : Nat) : Int)
  ({ stdout := Bytes.text (m.streamText 0), stderr := Bytes.text (m.streamText 1), exitCode }, m)

/-- Starts a command with variables that it inherits: what it left, or why it did not start, and the
files after it. -/
def run (inherited : Environment) (command : Command) (files : FileSystem) :
    Except SystemError Output × FileSystem :=
  let started := do
    checkTexts command
    let inside ← enter files command.directory
    checkProgram inside command.program
    pure inside
  match started with
  | .error e => (.error e, files)
  | .ok inside =>
    let (output, m) := execute (machine inside (inherited ++ command.env) command.program)
      command.program command.args
    (.ok output, { m.files with here := files.here })

end Worktop.Launch

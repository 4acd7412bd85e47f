import Worktop.Launch
import Worktop.Rehearsal

/-!
# Stages

A host for rehearsals of the whole command line.  Shell scripts are run within the library; all other
programs are played from a script, and can be started only if they are there and their directory is.
-/

namespace Worktop

/-- What there is of the outside: the answers of programs, the programs that can be found, the
variables, and the calls so far with the directories they ran in, latest first. -/
structure Stage where
  script : Script := []
  programs : List String := []
  env : Environment := []
  calls : List Command := []

namespace Stage

/-- The place where a command is started, if it can be. -/
def placeOf (stage : Stage) (command : Command) (files : FileSystem) :
    Except SystemError (List String) := do
  Launch.checkTexts command
  let inside ← Launch.enter files command.directory
  if stage.programs.contains command.program then .ok inside.here else .error .notFound

/-- An exit code as the operating system hands it over. -/
def handedOver (output : Output) : Output :=
  { output with exitCode := output.exitCode.map (· % 256) }

/-- Plays a program from the script. -/
def play (stage : Stage) (command : Command) (files : FileSystem) :
    Except SystemError Output × Stage × FileSystem :=
  match stage.placeOf command files with
  | .error e => (.error e, stage, files)
  | .ok place =>
    let (cue, script) := stage.script.next
    let call := { command with directory := some (Path.ofNames place) }
    (cue.outcome.map handedOver, { stage with script, calls := call :: stage.calls },
      files.changeAll cue.changes)

/-- Runs a shell script, or plays another program. -/
def answer (command : Command) (stage : Stage) (files : FileSystem) :
    Except SystemError Output × Stage × FileSystem :=
  if command.program = "/bin/sh" then
    let (outcome, files) := Launch.run stage.env command files
    (outcome, stage, files)
  else stage.play command files

/-- The host. -/
def host : Host Stage where
  answer := answer

end Stage

end Worktop

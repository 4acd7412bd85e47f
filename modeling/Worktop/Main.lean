import Worktop.Cli.Run
import Worktop.Stage

/-!
# The program

Runs the command line as a rehearsal: outside programs are not started.  Each command is shown on the
error output, and what it comes to is read from the input: a line with its exit code, then lines of
output up to one with a single full stop.
-/

namespace Worktop.Main

/-- The variables that commands look at. -/
def variableNames : List String :=
  ["HOME", "XDG_CONFIG_HOME", "SHELL", "TMUX", "WEZTERM_PANE"]

/-- The variables that are set. -/
def environment : IO Environment := do
  let values ← variableNames.mapM fun name => do
    pure ((← IO.getEnv name).map fun value => (name, value))
  pure (values.filterMap id)

/-- Reads lines up to a full stop or to the end. -/
partial def readOutput (input : IO.FS.Stream) : IO String := do
  let line ← input.getLine
  if line.isEmpty || line = ".\n" then pure "" else pure (line ++ (← readOutput input))

/-- Asks what a command comes to. -/
def ask (input output : IO.FS.Stream) (command : Command) : IO Cue := do
  output.putStrLn (command.directory.getD "" ++ "$ " ++ command.line)
  output.flush
  let code := (← input.getLine).trimAscii.toString.toInt?.getD 0
  let printed ← readOutput input
  let reply : Output :=
    if code = 0 then { stdout := printed } else { stderr := printed, exitCode := some code }
  pure { outcome := .ok reply }

/-- Runs with the answers so far, and asks for one more as long as a command is without.  A run with
more answers does the same up to there. -/
partial def rehearse (around : Cli.Surroundings) (args : List String) (files : FileSystem)
    (script : Script) : IO Cli.Ending := do
  let stage : Stage := { script, programs := around.programs, env := around.env }
  let (ending, s) := (Cli.run around args).perform Stage.host { outside := stage, files }
  match s.outside.calls.reverse.drop script.length with
  | [] => pure ending
  | command :: _ =>
    let cue ← ask (← IO.getStdin) (← IO.getStderr) command
    rehearse around args files (script ++ [cue])

/-- Runs the command line in the current directory. -/
def run (args : List String) : IO UInt32 := do
  let directory := (← IO.currentDir).toString
  let around : Cli.Surroundings :=
    { directory, env := ← environment, programs := ["git", "tmux", "wezterm"] }
  let names := (Path.segments directory).filter (!·.isEmpty)
  let ending ← rehearse around args (FileSystem.startingIn names) []
  IO.print ending.stdout
  IO.eprint ending.stderr
  pure (UInt32.ofNat ending.exitCode)

end Worktop.Main

/-- Runs the command line on the arguments of the process. -/
def main (args : List String) : IO UInt32 :=
  Worktop.Main.run args

import Worktop.Cli.Arguments
import Worktop.Text.Lines

/-!
# Help texts of the command line
-/

namespace Worktop.Cli

/-- The name of the program. -/
def programName : String := "tidymux"

/-- The version of the program. -/
def version : String := "0.4.0"

namespace Help

/-- What a command does. -/
def about : Verb → String
  | .add => "Create a branch, its worktree and a window"
  | .remove => "Destroy the window, remove the worktree and delete the branch"
  | .list => "List workspaces"
  | .close => "Close the window, keep the worktree"

/-- The options of the program, with what they are for. -/
def globalOptions : List (String × String) :=
  [("-v, --verbose", "Log progress at info level"),
    ("-C <DIR>", "Run as if started in this directory")]

/-- The options of a command. -/
def options (verb : Verb) : List (String × String) :=
  let own :=
    match verb with
    | .remove => [("-f, --force", "Skip confirmation and discard uncommitted changes")]
    | .list => [("    --json", "")]
    | .add | .close => []
  own ++ globalOptions ++ [("-h, --help", "Print help")]

/-- Two columns, two blanks further in. -/
def table (rows : List (String × String)) : List String :=
  let width := (rows.map (·.1.length)).foldl max 0
  rows.map fun (left, right) => "  " ++ Text.padRight width left ++ "  " ++ right

/-- What the help command does. -/
def aboutHelp : String := "Print this message or the help of the given subcommand(s)"

/-- The commands, with what they do. -/
def commands : List (String × String) :=
  [Verb.add, .remove, .list, .close].map (fun v => (v.name, about v)) ++ [("help", aboutHelp)]

/-- The lines of the help on something. -/
def lines : HelpTopic → List String
  | .program =>
    ["Git worktree + multiplexer workspaces", "",
      s!"Usage: {programName} [OPTIONS] <COMMAND>", "", "Commands:"] ++ table commands ++
      ["", "Options:"] ++ table (globalOptions ++
        [("-h, --help", "Print help"), ("-V, --version", "Print version")])
  | .command verb =>
    let operand := if verb.operands = 0 then "" else " <BRANCH>"
    let operandLines := if verb.operands = 0 then [] else ["", "Arguments:", "  <BRANCH>  "]
    [about verb, "", s!"Usage: {programName} {verb.name} [OPTIONS]{operand}"] ++ operandLines ++
      ["", "Options:"] ++ table (options verb)
  | .help =>
    [aboutHelp, "", s!"Usage: {programName} help [COMMAND]...", "", "Arguments:"] ++
      table [("[COMMAND]...", "Print help for the subcommand(s)")]

/-- The text of the help on something. -/
def text (topic : HelpTopic) : String :=
  Text.joinWith "\n" (lines topic) ++ "\n"

/-- What is told on a misuse. -/
def usage : String :=
  s!"error: invalid arguments\n\nUsage: {programName} [OPTIONS] <COMMAND>\n\n" ++
    "For more information, try '--help'.\n"

end Help

end Worktop.Cli

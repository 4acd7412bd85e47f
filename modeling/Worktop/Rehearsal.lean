import Worktop.FileSystem.Change
import Worktop.Session

/-!
# Rehearsals

A host that runs nothing: it answers the commands of an operation from a script, one entry after
the other.  What an operation does can so be seen, and said, for every course that the outside may
take.
-/

namespace Worktop

/-- The answer to one command, and what the command does to the files. -/
structure Cue where
  outcome : Except SystemError Output := .ok {}
  changes : List FileSystem.Change := []

/-- The answers to commands, in order.  When they are used up, every command succeeds and prints
nothing. -/
abbrev Script := List Cue

namespace Script

/-- The next answer, and the answers after it. -/
def next : Script → Cue × Script
  | [] => ({}, [])
  | cue :: rest => (cue, rest)

/-- Answers a command with the next entry of the script. -/
def answer (_ : Command) (script : Script) (files : FileSystem) :
    Except SystemError Output × Script × FileSystem :=
  let (cue, rest) := script.next
  (cue.outcome, rest, files.changeAll cue.changes)

/-- The host that answers from a script. -/
def host : Host Script where
  answer := answer

end Script

namespace Event

/-- The command, if the event is that one was run. -/
def command? : Event → Option Command
  | ran command _ => some command
  | _ => none

end Event

namespace Session

/-- The commands that were run, in order. -/
def commands {ω : Type} (s : Session ω) : List Command :=
  (s.journal.filterMap Event.command?).reverse

end Session

end Worktop

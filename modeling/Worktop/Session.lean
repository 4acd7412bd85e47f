import Worktop.Command
import Worktop.Lock

/-!
# Sessions

Everything an operation does to the outside goes through the few acts of this module.  What the
outside answers is up to a host, so that one definition of an operation serves every world; a
journal of the acts, latest first, says what was done and what came back.
-/

namespace Worktop

/-- The outside: how it answers a command in a state of its own, and what becomes of the files
meanwhile. -/
structure Host (ω : Type) where
  answer : Command → ω → FileSystem → Except SystemError Output × ω × FileSystem

/-- One act and its outcome. -/
inductive Event where
  | ran (command : Command) (reply : Reply)
  | looked (path : String) (found : Bool)
  | read (path : String) (found : Bool)
  | madeDirectories (path : String) (done : Bool)
  | locked (guard : Guard)
  | refused (error : LockError)
  | released (guard : Guard)
  | paused (duration : Nat)

/-- The state that acts work on. -/
structure Session (ω : Type) where
  outside : ω
  files : FileSystem := {}
  locks : Locks := {}
  clock : Nat := 0
  journal : List Event := []

/-- An act that gives an `α`. -/
abbrev Act (ω : Type) := ReaderT (Host ω) (StateM (Session ω))

/-- Starts from a state: what the act gives, and the state after it. -/
def Act.perform {ω α : Type} (act : Act ω α) (host : Host ω) (s : Session ω) : α × Session ω :=
  (act.run host).run s

namespace Session

/-- Adds an event to the journal. -/
def note {ω : Type} (s : Session ω) (event : Event) : Session ω :=
  { s with journal := event :: s.journal }

end Session

namespace Act

variable {ω : Type}

/-- Runs a command to its end. -/
def exec (command : Command) : Act ω Reply := fun host s =>
  let (answer, outside, files) := host.answer command s.outside s.files
  let reply := answer.mapError fun reason => { program := command.program, reason }
  (reply, { s with outside, files }.note (.ran command reply))

/-- Whether something stands at a path. -/
def pathExists (path : String) : Act ω Bool := fun _ s =>
  let found := s.files.pathExists path
  (found, s.note (.looked path found))

/-- The text of a file. -/
def readText (path : String) : Act ω (Except SystemError String) := fun _ s =>
  let text := s.files.readText path
  (text, s.note (.read path text.isOk))

/-- Makes a directory and those above it, unless they are there. -/
def makeDirectories (path : String) : Act ω (Except SystemError Unit) := fun _ s =>
  let (done, files) := s.files.makeDirectories path
  (done, { s with files }.note (.madeDirectories path done.isOk))

/-- Lets time pass. -/
def pause (duration : Nat) : Act ω Unit := fun _ s =>
  ((), { s with clock := s.clock + duration }.note (.paused duration))

/-- The time that has passed. -/
def now : Act ω Nat := fun _ s =>
  (s.clock, s)

/-- Takes the lock of a branch. -/
def acquire (table : LockTable) (branch : String) : Act ω (Except LockError Guard) := fun _ s =>
  let (guard?, locks, files) := s.locks.acquire s.files table branch
  let event := match guard? with
    | .ok guard => .locked guard
    | .error e => .refused e
  (guard?, { s with locks, files }.note event)

/-- Gives a lock up. -/
def release (guard : Guard) : Act ω Unit := fun _ s =>
  ((), { s with locks := s.locks.release guard }.note (.released guard))

end Act

end Worktop

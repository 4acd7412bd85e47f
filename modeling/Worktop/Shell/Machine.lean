import Worktop.Environment
import Worktop.FileSystem.Edit
import Worktop.Shell.Program

/-!
# The state of a shell

Variables, descriptors and files, and the acts on them that run nothing.
-/

namespace Worktop.Shell

/-- A variable.  One that is declared but not set has no value, and one that is fixed keeps the value
it has. -/
structure Variable where
  value : Option Bytes := none
  exported : Bool := false
  fixed : Bool := false
  deriving DecidableEq, Repr

/-- What a descriptor is connected to: nothing, a stream of bytes, or the end of a file. -/
inductive Channel where
  | nowhere
  | stream (id : Nat)
  | file (place : List String)
  deriving DecidableEq, Repr

/-- The state of a shell.  A stream is held as the pieces written to it, latest first.  `checked`
says that a failure is being looked at, so that it does not end a script that ends at failures;
`substituted`, that the status is that of a command substitution; `apart`, that this is a process of
its own that began as a copy of the shell; `pending` is a signal that was sent to the shell, and
`traps` has what is run for signals.  In a function, `locals` has what its
variables hid; `jobs` has the numbers and statuses of the commands in the background, latest first.
Complaints start with `context`. -/
structure Machine where
  files : FileSystem := {}
  bindings : List (Bytes × Variable) := []
  name : Bytes := []
  parameters : List Bytes := []
  functions : List (Bytes × Program) := []
  descriptors : List (Nat × Channel) := []
  streams : List (Nat × List Bytes) := []
  nextStream : Nat := 0
  status : Nat := 0
  line : Nat := 1
  context : String := ""
  endsAtFailure : Bool := false
  needsVariables : Bool := false
  traced : Bool := false
  literal : Bool := false
  checked : Bool := false
  substituted : Bool := false
  apart : Bool := false
  process : Nat := 4711
  loops : Nat := 0
  locals : Option (List (Bytes × Option Variable)) := none
  jobs : List (Nat × Nat) := []
  traps : List (String × Bytes) := []
  pending : Option String := none

/-- Why a program stops before its end.  `leave` goes out of loops, and on with the next round of
the last of them if `again` holds. -/
inductive Halt where
  | leave (loops : Nat) (again : Bool)
  | giveBack
  | exit
  | killed (signal : String)
  | exhausted
  deriving DecidableEq, Repr

/-- An act of a shell. -/
abbrev Run := ExceptT Halt (StateM Machine)

namespace Machine

/-- The value of a variable. -/
def get? (m : Machine) (name : Bytes) : Option Bytes :=
  (m.bindings.lookup name).bind (·.value)

/-- Changes a variable. -/
def change (m : Machine) (name : Bytes) (f : Variable → Variable) : Machine :=
  let v := f ((m.bindings.lookup name).getD {})
  { m with bindings := (name, v) :: m.bindings.filter (·.1 ≠ name) }

/-- Sets a variable. -/
def set (m : Machine) (name value : Bytes) : Machine :=
  m.change name fun v => { v with value := some value }

/-- Sets a variable that programs get to see. -/
def setExported (m : Machine) (name value : Bytes) : Machine :=
  m.change name fun v => { v with value := some value, exported := true }

/-- Whether a variable keeps the value it has. -/
def isFixed (m : Machine) (name : Bytes) : Bool :=
  ((m.bindings.lookup name).map (·.fixed)).getD false

/-- Gives a variable back what it was before. -/
def restore (m : Machine) (saved : Bytes × Option Variable) : Machine :=
  let others := m.bindings.filter (·.1 ≠ saved.1)
  { m with bindings := (saved.2.map (saved.1, ·)).toList ++ others }

/-- The variables that programs get to see, by name. -/
def environment (m : Machine) : List (Bytes × Bytes) :=
  let shown := m.bindings.filterMap fun (name, v) =>
    if v.exported then v.value.map (name, ·) else none
  shown.mergeSort fun a b => decide (String.ofList a.1 ≤ String.ofList b.1)

/-- The current directory as a path. -/
def directory (m : Machine) : String :=
  Path.ofNames m.files.here

/-- The bytes in a stream. -/
def streamText (m : Machine) (id : Nat) : Bytes :=
  (((m.streams.lookup id).getD []).reverse).flatten

/-- Gives a stream other pieces. -/
def setStream (m : Machine) (id : Nat) (pieces : List Bytes) : Machine :=
  { m with streams := (id, pieces) :: m.streams.filter (·.1 ≠ id) }

/-- Connects a descriptor, or closes it. -/
def connect (m : Machine) (descriptor : Nat) (channel : Option Channel) : Machine :=
  let others := m.descriptors.filter (·.1 ≠ descriptor)
  { m with descriptors := (channel.map (descriptor, ·)).toList ++ others }

/-- Makes a stream with some bytes in it. -/
def openStream (m : Machine) (content : Bytes) : Nat × Machine :=
  (m.nextStream, { m.setStream m.nextStream [content] with nextStream := m.nextStream + 1 })

end Machine

namespace Run

/-- Ends with a status. -/
def setStatus (status : Nat) : Run Unit :=
  modify fun m => { m with status }

/-- Writes bytes to a channel. -/
def writeTo (channel : Channel) (bytes : Bytes) : Run Unit := do
  let m ← get
  match channel with
  | .nowhere => pure ()
  | .stream id => set (m.setStream id (bytes :: (m.streams.lookup id).getD []))
  | .file place =>
    match m.files.append (Path.ofNames place) (Bytes.toList8 bytes) with
    | .ok files => set { m with files }
    | .error _ => pure ()

/-- Writes bytes to a descriptor; a closed one cannot be written to. -/
def write (descriptor : Nat) (bytes : Bytes) : Run Bool := do
  match (← get).descriptors.lookup descriptor with
  | none => pure false
  | some channel =>
    writeTo channel bytes
    pure true

/-- Writes a complaint with the name of the shell, the line and the context in front of it. -/
def complain (text : String) : Run Unit := do
  let m ← get
  let lead := m.name ++ Bytes.ofText s!": {m.line}: {m.context}"
  let _ ← write 2 (lead ++ Bytes.ofText text ++ ['\n'])

/-- Takes everything out of the input. -/
def readAll : Run Bytes := do
  let m ← get
  match m.descriptors.lookup 0 with
  | some (.stream id) =>
    set (m.setStream id [])
    pure (m.streamText id)
  | _ => pure []

/-- Takes a line out of the input, without the line feed, and tells whether there was one. -/
def readLine : Run (Bytes × Bool) := do
  let m ← get
  match m.descriptors.lookup 0 with
  | some (.stream id) =>
    let content := m.streamText id
    let line := content.takeWhile (· ≠ '\n')
    let ended := line.length < content.length
    set (m.setStream id [content.drop (line.length + 1)])
    pure (line, ended)
  | _ => pure ([], false)

/-- Does something with other descriptors, variables and so on of its own, and keeps of it only what
became of the files and streams: what a process of its own does. -/
def inSubshell (body : Run Unit) : Run Unit := do
  let before ← get
  let result ← ExceptT.lift body.run
  let after ← get
  let kept :=
    { before with
      files := { after.files with here := before.files.here }
      streams := after.streams, nextStream := after.nextStream
      status := after.status % 256, pending := after.pending }
  set kept
  match result with
  | .error (.killed signal) => throw (.killed signal)
  | .error .exhausted => throw .exhausted
  | _ => pure ()

/-- Does something and restores the descriptors. -/
def keepingDescriptors {α : Type} (body : Run α) : Run α := do
  let descriptors := (← get).descriptors
  let result ← ExceptT.lift body.run
  modify fun m => { m with descriptors }
  ExceptT.mk (pure result)

/-- Does something whose complaints have a context. -/
def within {α : Type} (context : String) (body : Run α) : Run α := do
  let outer := (← get).context
  modify fun m => { m with context }
  let result ← ExceptT.lift body.run
  modify fun m => { m with context := outer }
  ExceptT.mk (pure result)

/-- Does something that is looked at for its failure. -/
def checking {α : Type} (body : Run α) : Run α := do
  let checked := (← get).checked
  modify fun m => { m with checked := true }
  let result ← ExceptT.lift body.run
  modify fun m => { m with checked }
  ExceptT.mk (pure result)

/-- Gives a stream for what a body prints, and what it printed. -/
def capturing (body : Nat → Run Unit) : Run Bytes := do
  let (id, m) := (← get).openStream []
  set m
  let result ← ExceptT.lift (body id).run
  let printed := (← get).streamText id
  match result with
  | .error halt => throw halt
  | .ok () => pure printed

end Run

end Worktop.Shell

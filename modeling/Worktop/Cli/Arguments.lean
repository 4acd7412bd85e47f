/-!
# Arguments of the command line

Which command is meant, and the options of it.  Arguments are read from left to right, and the first
that is wrong, or asks for help or the version, decides.
-/

namespace Worktop.Cli

/-- The commands. -/
inductive Verb where
  | add
  | remove
  | list
  | close
  deriving DecidableEq, Repr

/-- The name of a command. -/
def Verb.name : Verb → String
  | add => "add"
  | remove => "remove"
  | list => "list"
  | close => "close"

/-- The command of a name; one has a second name. -/
def Verb.ofName? : String → Option Verb
  | "add" => some .add
  | "remove" | "rm" => some .remove
  | "list" => some .list
  | "close" => some .close
  | _ => none

/-- How many operands a command takes. -/
def Verb.operands : Verb → Nat
  | add | remove | close => 1
  | list => 0

/-- What is to be done. -/
inductive Request where
  | add (branch : String)
  | remove (branch : String) (force : Bool)
  | list (json : Bool)
  | close (branch : String)
  deriving DecidableEq, Repr

/-- What is to be done, and from which directory. -/
structure Invocation where
  verbose : Bool := false
  directory : Option String := none
  request : Request
  deriving DecidableEq, Repr

/-- What there is help on: the program, a command, or the help command. -/
inductive HelpTopic where
  | program
  | command (verb : Verb)
  | help
  deriving DecidableEq, Repr

/-- What the arguments ask for. -/
inductive Arguments where
  | run (invocation : Invocation)
  | help (topic : HelpTopic)
  | version
  | misused
  deriving DecidableEq, Repr

namespace Arguments

/-- The options and operands so far, before a command (`verb` is `none`) or behind it.  With
`awaiting`, the next argument is a directory; with `ended`, no more options follow. -/
structure Seen where
  verb : Option Verb := none
  verbose : Bool := false
  directory : Option String := none
  force : Bool := false
  json : Bool := false
  operands : List String := []
  awaiting : Bool := false
  ended : Bool := false
  deriving DecidableEq, Repr

/-- What a request for help is about. -/
def Seen.topic (s : Seen) : HelpTopic :=
  match s.verb with
  | some verb => .command verb
  | none => .program

/-- Takes a switch, which may be given once. -/
def Seen.switch (given : Bool) (after : Seen) : Except Arguments Seen :=
  if given then .error .misused else .ok after

/-- Takes the directory, which may be given once and has a name. -/
def Seen.enter (s : Seen) (directory : String) : Except Arguments Seen :=
  if s.directory.isSome || directory.isEmpty then .error .misused
  else .ok { s with directory := some directory, awaiting := false }

/-- Takes letters behind a dash.  The letter for a directory takes the rest, or the next argument if
there is no rest. -/
def letters (s : Seen) : List Char → Except Arguments Seen
  | [] => .ok s
  | 'v' :: rest => do letters (← Seen.switch s.verbose { s with verbose := true }) rest
  | 'h' :: _ => .error (.help s.topic)
  | 'V' :: _ => .error (if s.verb.isNone then .version else .misused)
  | 'f' :: rest => do
    if s.verb = some .remove then letters (← Seen.switch s.force { s with force := true }) rest
    else .error .misused
  | 'C' :: [] =>
    if s.directory.isSome then .error .misused else .ok { s with awaiting := true }
  | 'C' :: '=' :: rest => s.enter (String.ofList rest)
  | 'C' :: rest => s.enter (String.ofList rest)
  | _ :: _ => .error .misused

/-- Takes an option that is a word. -/
def word (s : Seen) : String → Except Arguments Seen
  | "--verbose" => Seen.switch s.verbose { s with verbose := true }
  | "--help" => .error (.help s.topic)
  | "--version" => .error (if s.verb.isNone then .version else .misused)
  | "--force" =>
    if s.verb = some .remove then Seen.switch s.force { s with force := true }
    else .error .misused
  | "--json" =>
    if s.verb = some .list then Seen.switch s.json { s with json := true } else .error .misused
  | _ => .error .misused

/-- Whether an argument is an option: it starts with a dash and has more than that. -/
def isOption (arg : String) : Bool :=
  arg.toList.head? = some '-' && arg ≠ "-"

/-- Takes an argument that may be an option, behind a command. -/
def argument (s : Seen) (limit : Nat) (arg : String) : Except Arguments Seen :=
  if s.awaiting then
    if isOption arg then .error .misused else s.enter arg
  else if !s.ended && isOption arg then
    if arg = "--" then .ok { s with ended := true }
    else if "--".toList.isPrefixOf arg.toList then word s arg
    else letters s (arg.toList.drop 1)
  else if s.operands.length < limit then .ok { s with operands := s.operands ++ [arg] }
  else .error .misused

/-- What a command is to do. -/
def request? (s : Seen) : Verb → Option Request
  | .add => s.operands.head?.map .add
  | .remove => s.operands.head?.map (.remove · s.force)
  | .list => some (.list s.json)
  | .close => s.operands.head?.map .close

/-- Reads the arguments behind a command.  What is said there goes before what was said in front of
it. -/
def behind (front : Seen) (verb : Verb) (args : List String) : Except Arguments Invocation := do
  let s ← args.foldlM (fun s arg => argument s verb.operands arg) { verb := some verb }
  if s.awaiting then .error .misused
  match request? s verb with
  | some request =>
    .ok { verbose := front.verbose || s.verbose, directory := s.directory.or front.directory,
          request }
  | none => .error .misused

/-- What the arguments of the help command ask for. -/
def helpOn : List String → Arguments
  | [] => .help .program
  | ["help"] => .help .help
  | [name] =>
    match Verb.ofName? name with
    | some verb => .help (.command verb)
    | none => .misused
  | _ => .misused

/-- Reads arguments up to the command. -/
def before (s : Seen) : List String → Except Arguments Invocation
  | [] => .error .misused
  | arg :: rest => do
    if s.awaiting || isOption arg then
      if arg = "--" then .error .misused
      else before (← argument s 0 arg) rest
    else if arg = "help" then .error (helpOn rest)
    else
      match Verb.ofName? arg with
      | some verb => behind s verb rest
      | none => .error .misused

/-- Reads arguments. -/
def parse (args : List String) : Arguments :=
  match before {} args with
  | .ok invocation => .run invocation
  | .error other => other

end Arguments

end Worktop.Cli

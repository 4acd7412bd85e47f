import Worktop.Shell.Field
import Worktop.Shell.Utility

/-!
# Running scripts

The meaning of programs of the shell language.  Every step takes one off the fuel, so that loops
without end come to one.
-/

namespace Worktop.Shell

namespace Run

/-- Complains, and ends the script with a status. -/
def abort {α : Type} (text : String) (status : Nat := 2) : Run α := do
  complain text
  setStatus status
  throw .exit

/-- The characters that separate fields. -/
def separators : Run Bytes := do
  pure (((← get).get? "IFS".toList).getD [' ', '\t', '\n'])

/-- The value of a parameter. -/
def parameter? (name : Bytes) : Run (Option Bytes) := do
  let m ← get
  match name with
  | ['#'] => pure (some (Bytes.ofInt m.parameters.length))
  | ['?'] => pure (some (Bytes.ofInt m.status))
  | ['$'] => pure (some (Bytes.ofInt m.process))
  | ['-'] =>
    let flags := [('u', m.needsVariables), ('x', m.traced), ('f', m.literal), ('e', m.endsAtFailure)]
    pure (some ((flags.filter (·.2)).map (·.1)))
  | ['!'] => pure (m.jobs.head?.map fun job => Bytes.ofInt job.1)
  | ['@'] | ['*'] =>
    pure (if m.parameters.isEmpty then none else some ([' '].intercalate m.parameters))
  | ['0'] => pure (some m.name)
  | c :: cs =>
    if c.isDigit then pure (m.parameters[Text.Numeral.value 10 (c :: cs) - 1]?)
    else pure (m.get? name)
  | [] => pure none

/-- Ends the script if a variable keeps the value it has.  The complaint starts with `lead`. -/
def demandFree (name : Bytes) (lead : String := "") : Run Unit := do
  if (← get).isFixed name then abort s!"{lead}{Bytes.text name}: is read only"

/-- Ends the script if a text is not the name of a variable. -/
def demandName (name : Bytes) (lead : String) : Run Unit := do
  if !isName name then abort s!"{lead}{Bytes.text name}: bad variable name"

/-- Sets a variable. -/
def assign (name value : Bytes) : Run Unit := do
  demandFree name
  modify fun m => m.set name value

/-- The value of an arithmetic expression; variables that it assigns are set. -/
def arithmetic (expression : Bytes) : Run Bytes := do
  let m ← get
  let shown := Bytes.text expression
  let fail (text : String) : Run Bytes := abort s!"arithmetic expression: {text}: \"{shown}\""
  match (do (Arith.eval m.get? (← Arith.ofText expression)).run []) with
  | .ok (n, changes) =>
    for (name, value) in changes.reverse do
      assign name (Bytes.ofInt value)
    pure (Bytes.ofInt n)
  | .error (.malformed expected) => fail expected
  | .error .divisionByZero => fail "division by zero"
  | .error (.illegalNumber text) => abort s!"Illegal number: {Bytes.text text}"

/-- The fields that all parameters make. -/
def allParameters (quoted : Bool) : Run (List Atom) := do
  let each (p : Bytes) : List Atom :=
    (if quoted then [.present] else []) ++ Atom.ofValue quoted p
  pure ([Atom.fieldEnd].intercalate ((← get).parameters.map each))

/-- How an error calls a redirection that failed. -/
def redirectError (creating : Bool) (file : Bytes) (e : SystemError) : String :=
  let reason :=
    match e with
    | .notFound => if creating then "Directory nonexistent" else "No such file"
    | e => Utility.reason e
  let verb := if creating then "create" else "open"
  s!"cannot {verb} {Bytes.text file}: {reason}"

/-- A file that takes everything and holds nothing. -/
def isNullDevice (file : Bytes) : Bool :=
  file = "/dev/null".toList

/-- Connects a descriptor to a file that is read. -/
def openInput (descriptor : Nat) (file : Bytes) : Run Bool := do
  let m ← get
  if isNullDevice file then
    set (m.connect descriptor (some .nowhere))
    pure true
  else
    match m.files.read (Bytes.text file) with
    | .ok content =>
      let (id, m) := m.openStream (Bytes.ofList8 content)
      set (m.connect descriptor (some (.stream id)))
      pure true
    | .error e =>
      complain (redirectError false file e)
      pure false

/-- Connects a descriptor to a file that is written, from its start or from its end. -/
def openOutput (descriptor : Nat) (append : Bool) (file : Bytes) : Run Bool := do
  let m ← get
  let path := Bytes.text file
  if isNullDevice file then
    set (m.connect descriptor (some .nowhere))
    pure true
  else
    let opened := do
      let files ← if append then m.files.append path [] else m.files.write path []
      pure (← files.locate path, files)
    match opened with
    | .ok (place, files) =>
      set ({ m with files }.connect descriptor (some (.file place)))
      pure true
    | .error e =>
      complain (redirectError true file e)
      pure false

/-- Connects a descriptor to what another is connected to, or closes it. -/
def duplicate (descriptor : Nat) (source : Bytes) : Run Bool := do
  let m ← get
  if source = ['-'] then
    set (m.connect descriptor none)
    pure true
  else
    match (Text.Numeral.decimal? source).bind fun n => m.descriptors.lookup n with
    | some channel =>
      set (m.connect descriptor (some channel))
      pure true
    | none =>
      complain s!"{Bytes.text source}: Bad file descriptor"
      pure false

/-- The signals that end nothing. -/
def harmless : List String :=
  ["EXIT", "CHLD", "CONT", "URG", "WINCH"]

/-- The signals by number. -/
def signals : List String :=
  ["EXIT", "HUP", "INT", "QUIT", "ILL", "TRAP", "ABRT", "BUS", "FPE", "KILL", "USR1", "SEGV", "USR2",
    "PIPE", "ALRM", "TERM", "STKFLT", "CHLD", "CONT", "STOP", "TSTP", "TTIN", "TTOU", "URG", "XCPU",
    "XFSZ", "VTALRM", "PROF", "WINCH", "IO", "PWR", "SYS"]

/-- The name of a signal, given by name or by number. -/
def signalName (signal : Bytes) : String :=
  let name := String.ofList (signal.map Char.toUpper)
  match Text.Numeral.decimal? signal with
  | some n => signals.getD n name
  | none => (Text.dropLead? "SIG" name).getD name

/-- Sends signals to processes, of which there is only this one. -/
def kill (args : List Bytes) : Run Unit := do
  let (signal, targets) :=
    match args with
    | ['-', 's'] :: s :: rest => (s, rest)
    | ('-' :: s) :: rest => (s, rest)
    | rest => ("TERM".toList, rest)
  let signal := signalName signal
  if targets.isEmpty then
    complain ("kill: Usage: kill [-s sigspec | -signum | -sigspec] [pid | job]... or\n" ++
      "kill -l [exitstatus]")
    setStatus 2
  else if !signals.contains signal then
    match args with
    | ['-', 's'] :: _ => complain s!"kill: invalid signal number or name: {signal}"
    | _ => complain s!"kill: Illegal option -{signal.take 1}"
    setStatus 2
  else if targets.contains (Bytes.ofInt (← get).process) then
    setStatus 0
    if !harmless.contains signal then modify fun m => { m with pending := some signal }
  else
    match targets.find? fun t => (Text.Numeral.decimal? t).isNone with
    | some target =>
      complain s!"kill: Illegal number: {Bytes.text target}"
      setStatus 2
    | none =>
      complain "kill: No such process\n"
      setStatus 1

/-- Goes to another directory. -/
def changeDirectory (args : List Bytes) : Run Unit := do
  let m ← get
  let args := if args.head? = some ['-', 'P'] || args.head? = some ['-', 'L'] then args.tail
    else args
  let back := args.head? = some ['-']
  let target :=
    match args with
    | [] => (m.get? "HOME".toList).getD []
    | arg :: _ => if back then (m.get? "OLDPWD".toList).getD [] else arg
  let path := Bytes.text target
  let place? := if target.isEmpty then some m.files.here else (m.files.locate path).toOption
  match place? with
  | some place =>
    if m.files.isDirectory (Path.ofNames place) then
      let previous := Bytes.ofText m.directory
      set { m with files := { m.files with here := place } }
      modify fun m => (m.set "OLDPWD".toList previous).set "PWD".toList (Bytes.ofText m.directory)
      if back then Utility.print (Bytes.ofText (← get).directory ++ ['\n'])
      setStatus 0
    else
      complain s!"cd: can't cd to {path}"
      setStatus 2
  | none =>
    complain s!"cd: can't cd to {path}"
    setStatus 2

/-- The name and the value of an assignment in an argument. -/
def splitAssignment (arg : Bytes) : Bytes × Option Bytes :=
  match Text.Chars.splitFirst? '=' arg with
  | some (name, value) => (name, some value)
  | none => (arg, none)

/-- Shows variables to programs, or fixes them. -/
def declareAll (fixing : Bool) (args : List Bytes) : Run Unit := do
  for arg in args do
    let (name, value) := splitAssignment arg
    if name ≠ ['-', 'p'] then
      demandName name (if fixing then "readonly: " else "export: ")
      if value.isSome then demandFree name (if fixing then "readonly: " else "export: ")
      modify fun m => m.change name fun v =>
        { value := value.or v.value, exported := v.exported || !fixing, fixed := v.fixed || fixing }
  setStatus 0

/-- Makes variables belong to the function that runs. -/
def makeLocal (args : List Bytes) : Run Unit := do
  match (← get).locals with
  | none => abort "local: not in a function"
  | some _ =>
    for arg in args do
      let (name, value) := splitAssignment arg
      demandName name "local: "
      if value.isSome then demandFree name "local: "
      modify fun m =>
        { m with locals := m.locals.map ((name, m.bindings.lookup name) :: ·) }
      match value with
      | some value => modify fun m => m.set name value
      | none => pure ()
    setStatus 0

/-- Forgets variables and functions. -/
def unset (args : List Bytes) : Run Unit := do
  for name in args do
    if name ≠ ['-', 'v'] && name ≠ ['-', 'f'] then
      demandName name "unset: "
      demandFree name "unset: "
      modify fun m =>
        { m with bindings := m.bindings.filter (·.1 ≠ name)
                 functions := m.functions.filter (·.1 ≠ name) }
  setStatus 0

/-- The options, with their letters. -/
def optionNames : List (String × Char) :=
  [("errexit", 'e'), ("noglob", 'f'), ("ignoreeof", 'I'), ("interactive", 'i'), ("monitor", 'm'),
    ("noexec", 'n'), ("stdin", 's'), ("xtrace", 'x'), ("verbose", 'v'), ("vi", 'V'), ("emacs", 'E'),
    ("noclobber", 'C'), ("allexport", 'a'), ("notify", 'b'), ("nounset", 'u')]

/-- Turns an option on or off, for a command whose complaints start with `lead`.  Most options mean
nothing to a script. -/
def setOption (lead : String) (on : Bool) (letter : Char) : Run Unit :=
  match letter with
  | 'e' => modify fun m => { m with endsAtFailure := on }
  | 'u' => modify fun m => { m with needsVariables := on }
  | 'x' => modify fun m => { m with traced := on }
  | 'f' => modify fun m => { m with literal := on }
  | _ =>
    if optionNames.any (·.2 = letter) then pure ()
    else abort s!"{lead}Illegal option -{letter}"

/-- Turns an option on or off by its name. -/
def setNamedOption (lead : String) (on : Bool) (name : Bytes) : Run Unit :=
  match optionNames.lookup (Bytes.text name) with
  | some letter => setOption lead on letter
  | none => abort s!"{lead}Illegal option -o {Bytes.text name}"

/-- Turns options on or off. -/
def setOptionLetters (lead : String) (on : Bool) : Bytes → Run Unit
  | [] => pure ()
  | letter :: rest => do
    setOption lead on letter
    setOptionLetters lead on rest

/-- Sets options, and parameters. -/
def setOptions : List Bytes → Run Unit
  | [] => pure ()
  | ['-', '-'] :: rest => modify fun m => { m with parameters := rest }
  | ['-', 'o'] :: name :: rest => do
    setNamedOption "set: " true name
    setOptions rest
  | ['+', 'o'] :: name :: rest => do
    setNamedOption "set: " false name
    setOptions rest
  | (sign :: letters) :: rest => do
    if sign = '-' || sign = '+' then
      setOptionLetters "set: " (sign == '-') (letters.filter (· ≠ 'o'))
      setOptions rest
    else modify fun m => { m with parameters := (sign :: letters) :: rest }
  | [] :: rest => modify fun m => { m with parameters := [] :: rest }

/-- Reads a line into variables; the last one gets all that is left. -/
def readInto (args : List Bytes) : Run Unit := do
  let names := args.filter fun a => a.head? ≠ some '-'
  let raw := args.contains ['-', 'r']
  let seps ← separators
  let (line, ended) ← readLine
  let line := if raw then line else line.filter (· ≠ '\\')
  let isBlank (c : Char) : Bool := seps.contains c && [' ', '\t', '\n'].contains c
  let strip (cs : Bytes) : Bytes := ((cs.dropWhile isBlank).reverse.dropWhile isBlank).reverse
  let rec fill (cs : Bytes) : List Bytes → List (Bytes × Bytes)
    | [] => []
    | [last] => [(last, strip cs)]
    | name :: rest =>
      let cs := cs.dropWhile isBlank
      let field := cs.takeWhile (!seps.contains ·)
      let after := (cs.drop field.length).dropWhile isBlank
      let after :=
        match after with
        | c :: more => if seps.contains c then more else after
        | [] => []
      (name, field) :: fill after rest
  let mut status := if ended then 0 else 1
  for (name, value) in fill line (if names.isEmpty then ["REPLY".toList] else names) do
    demandName name "read: "
    if (← get).isFixed name then
      complain s!"read: {Bytes.text name}: is read only"
      status := 2
    else assign name value
  setStatus status

/-- The status that an argument names. -/
def statusOf (tool : String) (arg : Bytes) : Run Nat :=
  match (Text.Numeral.decimal? arg).filter (2 * · < Text.Numeral.wordLimit) with
  | some n => pure n
  | none => abort s!"{tool}: Illegal number: {Bytes.text arg}"

/-- Ends the script or a function. -/
def leaveWith (tool : String) (halt : Halt) (args : List Bytes) : Run Unit := do
  match args with
  | arg :: _ =>
    let status ← statusOf tool arg
    setStatus status
  | [] => pure ()
  throw halt

/-- Leaves loops. -/
def leaveLoops (again : Bool) (args : List Bytes) : Run Unit := do
  setStatus 0
  let tool := if again then "continue" else "break"
  let n ← match args with
    | arg :: _ => statusOf tool arg
    | [] => pure 1
  if n = 0 then abort s!"{tool}: Illegal number: 0"
  if (← get).loops ≠ 0 then throw (.leave n again)

/-- Sets what is run for signals, or forgets it. -/
def trap (args : List Bytes) : Run Unit := do
  setStatus 0
  match args with
  | action :: signals =>
    for signal in signals.map signalName do
      modify fun m =>
        let others := m.traps.filter (·.1 ≠ signal)
        { m with traps := if action = ['-'] then others else (signal, action) :: others }
  | [] => pure ()

/-- Drops parameters from the front. -/
def shift (args : List Bytes) : Run Unit := do
  let n ← match args with
    | arg :: _ => statusOf "shift" arg
    | [] => pure 1
  let parameters := (← get).parameters
  if n ≤ parameters.length then
    modify fun m => { m with parameters := parameters.drop n }
    setStatus 0
  else abort "shift: can't shift that many"

/-- Waits for commands in the background, which have all ended: the status of the last that is
named. -/
def wait (args : List Bytes) : Run Unit := do
  let jobs := (← get).jobs
  let statusOf (arg : Bytes) : Nat :=
    ((Text.Numeral.decimal? arg).bind fun n => jobs.lookup n).getD 127
  setStatus ((args.getLast?.map statusOf).getD 0)

/-- The commands that change the shell itself, apart from those that run others. -/
def builtin? : String → Option (List Bytes → Run Unit)
  | ":" | "ulimit" | "times" | "hash" | "jobs" => some fun _ => setStatus 0
  | "wait" => some wait
  | "umask" => some fun args => do
    if args.isEmpty then Utility.print "0022\n".toList
    setStatus 0
  | "trap" => some trap
  | "cd" | "chdir" => some changeDirectory
  | "exit" => some (leaveWith "exit" .exit)
  | "return" => some (leaveWith "return" .giveBack)
  | "break" => some (leaveLoops false)
  | "continue" => some (leaveLoops true)
  | "export" => some (declareAll false)
  | "readonly" => some (declareAll true)
  | "local" => some makeLocal
  | "unset" => some unset
  | "set" => some fun args => do
    setOptions args
    setStatus 0
  | "shift" => some shift
  | "read" => some readInto
  | "kill" => some kill
  | "echo" => some fun args => do
    setStatus (← Utility.printFor "echo" (Format.echo args))
  | _ => none

/-- How a shell calls a signal that ended a process, if it does. -/
def obituary? : String → Option String
  | "HUP" => some "Hangup"
  | "QUIT" => some "Quit"
  | "ILL" => some "Illegal instruction"
  | "TRAP" => some "Trace/breakpoint trap"
  | "ABRT" => some "Aborted"
  | "BUS" => some "Bus error"
  | "FPE" => some "Floating point exception"
  | "KILL" => some "Killed"
  | "USR1" => some "User defined signal 1"
  | "SEGV" => some "Segmentation fault"
  | "USR2" => some "User defined signal 2"
  | "ALRM" => some "Alarm clock"
  | "TERM" => some "Terminated"
  | _ => none

/-- Waits for a process; a signal that ends it makes the status. -/
def reap (process : Run Unit) : Run Unit := do
  match ← ExceptT.lift process.run with
  | .error (.killed signal) =>
    match obituary? signal with
    | some text => let _ ← write 2 (Bytes.ofText text ++ ['\n'])
    | none => pure ()
    setStatus (128 + signals.idxOf signal)
  | result => ExceptT.mk (pure result)

/-- Whether the assignments of a command stay. -/
def isSpecial (name : String) : Bool :=
  Grammar.special.contains name

/-- Ends a script that ends at failures, unless the failure is being looked at. -/
def endAtFailure : Run Unit := do
  let m ← get
  if m.endsAtFailure && !m.checked && m.status ≠ 0 then throw .exit

/-- The directories that programs without a path are looked for in. -/
def programDirectories : List String :=
  ["/usr/local/bin/", "/bin/", "/usr/bin/"]

/-- The utility that a name or a path means. -/
def toolName? (name : String) : Option String :=
  let base? := programDirectories.findSome? fun d => Text.dropLead? d name
  let known (n : String) : Bool :=
    (Utility.named? n).isSome || ["sh", "dash", "env"].contains n
  ((base?.or (if name.toList.contains '/' then none else some name))).filter known

/-- The utilities that are part of the shell. -/
def isOwnTool (name : String) : Bool :=
  ["true", "false", "echo", "printf", "test", "[", "pwd"].contains name

/-- The directory that programs are found in, if it is among those that `PATH` names. -/
def programDirectory? (m : Machine) : Option String :=
  let path := (m.get? "PATH".toList).getD "/usr/bin:/bin".toList
  let directories := (Lexer.splitLines (path.map fun c => if c = ':' then '\n' else c)).map Bytes.text
  (["/usr/bin", "/bin"].find? directories.contains).map (· ++ "/")

/-- The utility that a name or a path means to a shell. -/
def reachable? (m : Machine) (name : String) : Option String :=
  (toolName? name).filter fun tool =>
    isOwnTool tool || name.toList.contains '/' || (programDirectory? m).isSome

/-- Tells why a command cannot be run: its status, and what is complained. -/
def unknown (name : Bytes) : Run (Nat × String) := do
  let files := (← get).files
  let path := Bytes.text name
  if name.contains '/' && files.pathExists path then pure (126, s!"{path}: Permission denied")
  else if name = [] || name = ['.', '.'] then pure (127, s!"{path}: Permission denied")
  else pure (127, s!"{path}: not found")

/-- What a command is: a word of the language, a function, part of the shell, or a program at a
path. -/
inductive CommandKind where
  | keyword
  | function
  | specialBuiltin
  | builtin
  | program (path : String)
  deriving DecidableEq, Repr

/-- The text of a kind. -/
def CommandKind.text : CommandKind → String
  | keyword => "is a shell keyword"
  | function => "is a shell function"
  | specialBuiltin => "is a special shell builtin"
  | builtin => "is a shell builtin"
  | program path => s!"is {path}"

/-- What a command is, if it is one. -/
def kindOf? (m : Machine) (name : Bytes) : Option CommandKind :=
  let tool := Bytes.text name
  if Grammar.reserved.contains tool then some .keyword
  else if (m.functions.lookup name).isSome then some .function
  else if isSpecial tool then some .specialBuiltin
  else if (builtin? tool).isSome || isOwnTool tool || ["command", "type"].contains tool then
    some .builtin
  else
    (reachable? m tool).map fun base =>
      .program (if name.contains '/' then tool else (programDirectory? m).getD "" ++ base)

/-- Tells what commands are, in words, or, with `brief`, by how they are called. -/
def tellKinds (brief : Bool) (names : List Bytes) : Run Unit := do
  setStatus 0
  for name in names do
    match kindOf? (← get) name, brief with
    | some (.program path), true => Utility.print (Bytes.ofText path ++ ['\n'])
    | some _, true => Utility.print (name ++ ['\n'])
    | some kind, false => Utility.print (name ++ Bytes.ofText s!" {kind.text}\n")
    | none, true => setStatus 127
    | none, false =>
      Utility.print (name ++ Bytes.ofText ": not found\n")
      setStatus 127

mutual

/-- Expands a word. -/
def expandWord : Nat → Word → Run (List Atom)
  | 0, _ => throw .exhausted
  | _ + 1, [] => pure []
  | fuel + 1, piece :: rest => do
    let first ← expandPiece fuel piece
    let others ← expandWord fuel rest
    pure (first ++ others)

/-- Expands a piece of a word. -/
def expandPiece : Nat → Piece → Run (List Atom)
  | 0, _ => throw .exhausted
  | _ + 1, .text true cs => pure (.present :: cs.map fun c => .char c true false)
  | _ + 1, .text false cs => pure (cs.map fun c => .char c false false)
  | fuel + 1, .parameter quoted name use => expandParameter fuel quoted name use
  | fuel + 1, .command quoted source => do
    let printed ← capturing fun id => runApart fuel
      (fun m => m.connect 1 (some (.stream id))) (runScript fuel source)
    modify fun m => { m with substituted := true }
    pure (Atom.ofValue quoted (printed.reverse.dropWhile (· = '\n')).reverse)
  | fuel + 1, .arithmetic quoted expression => do
    let text := Atom.text (← expandWord fuel expression)
    pure (Atom.ofValue quoted (← arithmetic text))

/-- Expands a parameter. -/
def expandParameter : Nat → Bool → Bytes → Use → Run (List Atom)
  | 0, _, _, _ => throw .exhausted
  | fuel + 1, quoted, name, use => do
    let value? ← parameter? name
    let isSet (emptyToo : Bool) : Bool :=
      match value? with
      | some value => !(emptyToo && value.isEmpty)
      | none => false
    let own : Run (List Atom) := do
      if name = ['@'] then allParameters quoted
      else if name = ['*'] && !quoted then allParameters false
      else if name = ['*'] then
        let glue := (← separators).take 1
        pure (Atom.ofValue true (glue.intercalate (← get).parameters))
      else
        match value? with
        | some value => pure (Atom.ofValue quoted value)
        | none =>
          if (← get).needsVariables then abort s!"{Bytes.text name}: parameter not set"
          else pure []
    let instead (word : Word) : Run (List Atom) := do
      let atoms ← expandWord fuel word
      pure (atoms.map fun
        | .char c q _ => .char c (q || quoted) (!q && !quoted)
        | atom => atom)
    match use with
    | .value => own
    | .length => pure (Atom.ofValue quoted (Bytes.ofInt (value?.getD []).length))
    | .default emptyToo word => if isSet emptyToo then own else instead word
    | .alternative emptyToo word => if isSet emptyToo then instead word else pure []
    | .assign emptyToo word =>
      if isSet emptyToo then own
      else do
        let value := Atom.text (← expandWord fuel word)
        assign name value
        pure (Atom.ofValue quoted value)
    | .demand emptyToo word =>
      if isSet emptyToo then own
      else do
        let text := Bytes.text (Atom.text (← expandWord fuel word))
        let unset := if emptyToo then "parameter not set or null" else "parameter not set"
        let text := if text.isEmpty then unset else text
        abort s!"{Bytes.text name}: {text}"
    | .trim fromEnd longest pattern => do
      let marked := Atom.marked (← expandWord fuel pattern)
      let items := Pattern.ofMarked (marked.length + 1) marked
      pure (Atom.ofValue quoted (items.trim fromEnd longest (value?.getD [])))
    | .bad => abort "Bad substitution"

/-- Expands a word to a text. -/
def expandText : Nat → Word → Run Bytes
  | 0, _ => throw .exhausted
  | fuel + 1, word => do
    pure (Atom.text (← expandHome fuel word))

/-- Expands a word, and a tilde at its start to the home directory. -/
def expandHome : Nat → Word → Run (List Atom)
  | 0, _ => throw .exhausted
  | fuel + 1, word => do
    let home := (← get).get? "HOME".toList
    match home, word with
    | some home, [.text false ['~']] => pure (home.map fun c => .char c true false)
    | some home, .text false ['~'] :: .text false ['/'] :: rest => do
      let others ← expandWord fuel (.text false ['/'] :: rest)
      pure (home.map (fun c => .char c true false) ++ others)
    | _, _ => expandWord fuel word

/-- Expands words to fields. -/
def expandFields : Nat → List Word → Run (List Bytes)
  | 0, _ => throw .exhausted
  | _ + 1, [] => pure []
  | fuel + 1, word :: rest => do
    let noParameters := (← get).parameters.isEmpty
    let fields ←
      match word with
      | [.text true [], .parameter true ['@'] .value] =>
        if noParameters then pure []
        else do pure ((← expandWord fuel word))
      | _ => expandHome fuel word
    let marked := Atom.split (← separators) .outside fields
    let m ← get
    let others ← expandFields fuel rest
    let paths (field : Marked) : List Bytes :=
      if m.literal then [field.map (·.1)] else Field.paths m.files field
    pure ((marked.map paths).flatten ++ others)

/-- Connects descriptors as redirections say, up to one that fails. -/
def redirect : Nat → List Redirect → Run Bool
  | 0, _ => throw .exhausted
  | _ + 1, [] => pure true
  | fuel + 1, r :: rest => do
    let done ←
      match r.target with
      | .input file => do openInput r.descriptor (← expandText fuel file)
      | .output file => do openOutput r.descriptor false (← expandText fuel file)
      | .append file => do openOutput r.descriptor true (← expandText fuel file)
      | .both file => do openOutput r.descriptor true (← expandText fuel file)
      | .duplicate source => do duplicate r.descriptor (← expandText fuel source)
      | .here text => do
        let (id, m) := (← get).openStream (← expandText fuel text)
        set (m.connect r.descriptor (some (.stream id)))
        pure true
    if done then redirect fuel rest else pure false

/-- Sets variables as assignments say, and gives the names with the values. -/
def assignAll : Nat → Bool → List (Bytes × Word) → Run (List Bytes)
  | 0, _, _ => throw .exhausted
  | _ + 1, _, [] => pure []
  | fuel + 1, exported, (name, word) :: rest => do
    let value ← expandText fuel word
    demandFree name
    modify fun m => if exported then m.setExported name value else m.set name value
    let others ← assignAll fuel exported rest
    pure ((name ++ '=' :: value) :: others)

/-- Runs a program. -/
def runProgram : Nat → Program → Run Unit
  | 0, _ => throw .exhausted
  | _ + 1, .empty => setStatus 0
  | fuel + 1, .simple line assignments words redirects => do
    modify fun m => { m with line }
    runSimple fuel assignments words redirects
    endAtFailure
  | fuel + 1, .redirected body redirects => keepingDescriptors do
    if ← redirect fuel redirects then runProgram fuel body else setStatus 2
  | fuel + 1, .pipeline stages => do
    runStages fuel stages
    endAtFailure
  | fuel + 1, .negation body => do
    checking (runProgram fuel body)
    setStatus (if (← get).status = 0 then 1 else 0)
  | fuel + 1, .both first second => do
    checking (runProgram fuel first)
    if (← get).status = 0 then runProgram fuel second
  | fuel + 1, .either first second => do
    checking (runProgram fuel first)
    if (← get).status ≠ 0 then runProgram fuel second
  | fuel + 1, .sequence first second => do
    runProgram fuel first
    runProgram fuel second
  | fuel + 1, .background body => do
    runApart fuel id (runProgram fuel body)
    modify fun m =>
      let number := m.process + m.jobs.length + 1
      { m with jobs := (number, m.status) :: m.jobs, status := 0 }
  | fuel + 1, .subshell body => do
    runApart fuel id (runProgram fuel body)
    endAtFailure
  | fuel + 1, .choice condition yes no => do
    checking (runProgram fuel condition)
    if (← get).status = 0 then runProgram fuel yes else runProgram fuel no
  | fuel + 1, .loop untilTrue condition body => runLoop fuel untilTrue condition body 0
  | fuel + 1, .forEach name words body => do
    let values ←
      match words with
      | some words => expandFields fuel words
      | none => do pure (← get).parameters
    setStatus 0
    runEach fuel name values body
  | fuel + 1, .cases subject arms => do
    let text ← expandText fuel subject
    setStatus 0
    runArms fuel text arms
  | _ + 1, .function name body => do
    modify fun m => { m with functions := (name, body) :: m.functions.filter (·.1 ≠ name) }
    setStatus 0

/-- Does something in a process of its own, which differs at first by `change`.  What was set to run
for signals is forgotten there, apart from what is nothing. -/
def runApart : Nat → (Machine → Machine) → Run Unit → Run Unit
  | 0, _, _ => throw .exhausted
  | fuel + 1, change, body => do
    inSubshell do
      modify fun m => change { m with traps := m.traps.filter (·.2.isEmpty), apart := true }
      runToExit fuel body
    runPending fuel

/-- Does something, and at the end what was set to run at the end. -/
def runToExit : Nat → Run Unit → Run Unit
  | 0, _ => throw .exhausted
  | fuel + 1, body => do
    let result ← ExceptT.lift body.run
    match (← get).traps.lookup "EXIT", result with
    | some action, .ok () | some action, .error .exit =>
      let status := (← get).status
      modify fun m => { m with traps := m.traps.filter (·.1 ≠ "EXIT") }
      runScript fuel action
      setStatus status
    | _, result => ExceptT.mk (pure result)

/-- Runs the body of a loop once; tells whether the loop goes on. -/
def runRound : Nat → Program → Run Bool
  | 0, _ => throw .exhausted
  | fuel + 1, body => do
    let loops := (← get).loops
    modify fun m => { m with loops := loops + 1 }
    let result ← ExceptT.lift (runProgram fuel body).run
    modify fun m => { m with loops }
    match result with
    | .ok () => pure true
    | .error (.leave n again) =>
      if n ≤ 1 then pure again else throw (.leave (n - 1) again)
    | .error halt => throw halt

/-- Runs a loop; `last` is the status of the round before. -/
def runLoop : Nat → Bool → Program → Program → Nat → Run Unit
  | 0, _, _, _, _ => throw .exhausted
  | fuel + 1, untilTrue, condition, body, last => do
    checking (runProgram fuel condition)
    if ((← get).status == 0) == untilTrue then setStatus last
    else if ← runRound fuel body then
      runLoop fuel untilTrue condition body (← get).status

/-- Runs the body of a loop for each of some values. -/
def runEach : Nat → Bytes → List Bytes → Program → Run Unit
  | 0, _, _, _ => throw .exhausted
  | _ + 1, _, [], _ => pure ()
  | fuel + 1, name, value :: rest, body => do
    assign name value
    if ← runRound fuel body then runEach fuel name rest body

/-- Runs the first arm with a pattern for a text. -/
def runArms : Nat → Bytes → List (List Word × Program) → Run Unit
  | 0, _, _ => throw .exhausted
  | _ + 1, _, [] => pure ()
  | fuel + 1, text, (patterns, body) :: rest => do
    if ← fitsAny fuel text patterns then runProgram fuel body else runArms fuel text rest

/-- Whether one of some patterns fits a text. -/
def fitsAny : Nat → Bytes → List Word → Run Bool
  | 0, _, _ => throw .exhausted
  | _ + 1, _, [] => pure false
  | fuel + 1, text, pattern :: rest => do
    let marked := Atom.marked (← expandHome fuel pattern)
    if Pattern.accepts (Pattern.ofMarked (marked.length + 1) marked) text then pure true
    else fitsAny fuel text rest

/-- Runs commands each of which reads what the one before printed. -/
def runStages : Nat → List Program → Run Unit
  | 0, _ => throw .exhausted
  | _ + 1, [] => pure ()
  | fuel + 1, [last] => runApart fuel id (runProgram fuel last)
  | fuel + 1, stage :: rest => do
    let (id, m) := (← get).openStream []
    set m
    runApart fuel (fun m => m.connect 1 (some (.stream id))) (runProgram fuel stage)
    keepingDescriptors do
      modify fun m => m.connect 0 (some (.stream id))
      runStages fuel rest

/-- Runs a simple command. -/
def runSimple : Nat → List (Bytes × Word) → List Word → List Redirect → Run Unit
  | 0, _, _, _ => throw .exhausted
  | fuel + 1, assignments, words, redirects => do
    modify fun m => { m with substituted := false }
    let fields ← expandFields fuel words
    let complaints? := (← get).descriptors.lookup 2
    let trace (settings : List Bytes) : Run Unit := do
      if (← get).traced then
        let line := '+' :: ((settings ++ fields).map (' ' :: ·)).flatten ++ ['\n']
        (complaints?.map (writeTo · line)).getD (pure ())
    match fields with
    | [] =>
      let done ← keepingDescriptors (redirect fuel redirects)
      let settings ← assignAll fuel false assignments
      if !settings.isEmpty then trace settings
      if !done then setStatus 2
      else if !(← get).substituted then setStatus 0
    | ['e', 'x', 'e', 'c'] :: args => do
      if !(← redirect fuel redirects) then
        setStatus 2
        throw .exit
      trace (← assignAll fuel true assignments)
      if !args.isEmpty then
        let name := args.headD []
        if (reachable? (← get) (Bytes.text name)).isSome then runOutside fuel name args.tail
        else
          let (status, text) ← unknown name
          complain s!"exec: {text}"
          setStatus status
        throw .exit
    | name :: args =>
      let tool := Bytes.text name
      keepingDescriptors do
        if !(← redirect fuel redirects) then
          setStatus 2
          if isSpecial tool then throw .exit
        else if isSpecial tool then
          trace (← assignAll fuel false assignments)
          runCommand fuel name args
        else
          let bindings := (← get).bindings
          trace (← assignAll fuel true assignments)
          let result ← ExceptT.lift (runCommand fuel name args).run
          modify fun m => assignments.foldl (fun m a => m.restore (a.1, bindings.lookup a.1)) m
          ExceptT.mk (pure result)

/-- Runs a command that is no redirection alone. -/
def runCommand : Nat → Bytes → List Bytes → Run Unit
  | 0, _, _ => throw .exhausted
  | fuel + 1, name, args => do
    match (← get).functions.lookup name with
    | some body =>
      let outer ← get
      modify fun m => { m with parameters := args, locals := some [] }
      let result ← ExceptT.lift (runProgram fuel body).run
      modify fun m =>
        { (m.locals.getD []).foldl Machine.restore m with
          parameters := outer.parameters, locals := outer.locals }
      match result with
      | .ok () | .error .giveBack => pure ()
      | .error halt => throw halt
    | none =>
      match Bytes.text name with
      | "eval" => do
        setStatus 0
        within "eval: " (runScript fuel ([' '].intercalate args))
      | "command" =>
        match args with
        | ['-', 'v'] :: targets => tellKinds true targets
        | ['-', 'V'] :: targets => tellKinds false targets
        | target :: rest => runCommand fuel target rest
        | [] => setStatus 0
      | "type" => tellKinds false args
      | "." =>
        match args with
        | file :: _ =>
          match (← get).files.read (Bytes.text file) with
          | .ok content =>
            let result ← ExceptT.lift
              (within s!"{Bytes.text file}: " (runScript fuel (Bytes.ofList8 content))).run
            match result with
            | .ok () | .error .giveBack => pure ()
            | .error halt => throw halt
          | .error _ => abort s!".: cannot open {Bytes.text file}: No such file"
        | [] => setStatus 0
      | tool =>
        match builtin? tool with
        | some act => do
          within "" (act args)
          runPending fuel
        | none => runOutside fuel name args

/-- Meets the signal that was sent to the shell, if there is one and this is the shell. -/
def runPending : Nat → Run Unit
  | 0 => throw .exhausted
  | fuel + 1 => do
    let m ← get
    match if m.apart then none else m.pending with
    | none => pure ()
    | some signal =>
      set { m with pending := none }
      match m.traps.lookup signal with
      | some action =>
        if signal = "KILL" then throw (.killed signal)
        runScript fuel action
        setStatus m.status
      | none => throw (.killed signal)

/-- Runs a utility or another shell. -/
def runOutside : Nat → Bytes → List Bytes → Run Unit
  | 0, _, _ => throw .exhausted
  | fuel + 1, name, args => do
    match reachable? (← get) (Bytes.text name) with
    | some "sh" | some "dash" => reap (inSubshell (runShell fuel name args))
    | some "env" => inSubshell (runWithEnvironment fuel args)
    | some tool =>
      match Utility.named? tool with
      | some act => within "" (do setStatus (← act args))
      | none => setStatus 127
    | none =>
      let (status, text) ← unknown name
      complain text
      setStatus status

/-- Runs a command with bindings set for it. -/
def runWithEnvironment : Nat → List Bytes → Run Unit
  | 0, _ => throw .exhausted
  | fuel + 1, args => do
    match args with
    | [] => setStatus (← Utility.printEnvironment [])
    | ['-', 'i'] :: rest =>
      modify fun m => { m with bindings := [] }
      runWithEnvironment fuel rest
    | arg :: rest =>
      match splitAssignment arg with
      | (name, some value) =>
        modify fun m => m.setExported name value
        runWithEnvironment fuel rest
      | _ => runOutside fuel arg rest

/-- Runs a shell of its own: it knows only the variables that programs get to see. -/
def runShell : Nat → Bytes → List Bytes → Run Unit
  | 0, _, _ => throw .exhausted
  | fuel + 1, name, args => do
    modify fun m =>
      { m with
        bindings := m.bindings.filter fun b => b.2.exported && isName b.1
        functions := [], name, parameters := []
        line := 0, status := 0, checked := false, endsAtFailure := false, needsVariables := false
        traced := false, literal := false, loops := 0, locals := none, jobs := [], traps := []
        pending := none, apart := false, process := m.process + 100, context := "" }
    runToExit fuel (runArguments fuel name false args)

/-- Runs what the arguments of a shell name: behind the options a file, or, with `given`, the script
itself. -/
def runArguments : Nat → Bytes → Bool → List Bytes → Run Unit
  | 0, _, _, _ => throw .exhausted
  | fuel + 1, name, given, args => do
    match args with
    | ['-', 'o'] :: option :: rest => do
      setNamedOption "" true option
      runArguments fuel name given rest
    | ['-', '-'] :: rest => runOperands fuel name given rest
    | ('-' :: letter :: letters) :: rest => do
      setOptionLetters "" true ((letter :: letters).filter fun c => c ≠ 'c' && c ≠ 'l')
      runArguments fuel name (given || (letter :: letters).contains 'c') rest
    | operands => runOperands fuel name given operands

/-- Runs what the operands of a shell name. -/
def runOperands : Nat → Bytes → Bool → List Bytes → Run Unit
  | 0, _, _, _ => throw .exhausted
  | fuel + 1, name, given, operands => do
    match given, operands with
    | true, script :: rest =>
      modify fun m => { m with name := rest.headD name, parameters := rest.tail, line := 1 }
      runScript fuel script
    | true, [] => abort "-c requires an argument"
    | false, file :: rest => runFile fuel file rest
    | false, [] =>
      modify fun m => { m with line := 1 }
      runScript fuel (← readAll)

/-- Runs the script in a file. -/
def runFile : Nat → Bytes → List Bytes → Run Unit
  | 0, _, _ => throw .exhausted
  | fuel + 1, file, args => do
    match (← get).files.read (Bytes.text file) with
    | .ok content =>
      modify fun m => { m with name := file, parameters := args, line := 1 }
      runScript fuel (Bytes.ofList8 content)
    | .error _ => do
      modify fun m => { m with line := 0 }
      complain s!"cannot open {Bytes.text file}: No such file"
      setStatus 2

/-- Runs a script, line by line. -/
def runScript : Nat → Bytes → Run Unit
  | 0, _ => throw .exhausted
  | fuel + 1, source => do
    let (programs, fault) := Program.ofScript source
    runAll fuel programs
    match fault with
    | some (e, line) =>
      modify fun m => { m with line }
      abort e.message
    | none => pure ()

/-- Runs programs one after another. -/
def runAll : Nat → List Program → Run Unit
  | 0, _ => throw .exhausted
  | _ + 1, [] => pure ()
  | fuel + 1, program :: rest => do
    match ← ExceptT.lift (runProgram fuel program).run with
    | .ok () | .error (.leave ..) => runAll fuel rest
    | .error halt => throw halt

end

/-- Runs a program that no shell waits for: a signal that ends it ends all. -/
def start (fuel : Nat) (name : Bytes) (args : List Bytes) : Run Unit :=
  match toolName? (Bytes.text name) with
  | some "sh" | some "dash" => runShell fuel name args
  | _ => runOutside fuel name args

end Run

end Worktop.Shell

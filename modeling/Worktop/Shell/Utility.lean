import Worktop.Shell.Format
import Worktop.Shell.Machine
import Worktop.Shell.Test

/-!
# Utilities

Small programs that scripts are made of.  Each gives its exit status.
-/

namespace Worktop.Shell.Utility

/-- A utility, given its arguments. -/
abbrev Tool := List Bytes → Run Nat

/-- Prints bytes. -/
def print (bytes : Bytes) : Run Unit := do
  let _ ← Run.write 1 bytes

/-- Complains under the name of the utility. -/
def complain (tool : String) (text : String) : Run Unit := do
  let _ ← Run.write 2 (Bytes.ofText s!"{tool}: {text}\n")

/-- The text of an error without its number. -/
def reason : SystemError → String
  | .notFound => "No such file or directory"
  | .permissionDenied => "Permission denied"
  | .alreadyExists => "File exists"
  | .notDirectory => "Not a directory"
  | .isDirectory => "Is a directory"
  | .nameTooLong => "File name too long"
  | e => e.message

/-- What a file holds, or the input if the file is a dash. -/
def contentOf (file : Bytes) : Run (Except SystemError Bytes) := do
  if file = ['-'] then pure (.ok (← Run.readAll))
  else if file = "/dev/null".toList then pure (.ok [])
  else pure (((← get).files.read (Bytes.text file)).map Bytes.ofList8)

/-- What some files hold, one after another, or the input if there are none, with a complaint for
each that cannot be read. -/
def contents (tool : String) : List Bytes → Run (List Bytes × Nat)
  | [] => pure ([], 0)
  | file :: rest => do
    match ← contentOf file with
    | .ok content =>
      let (others, status) ← contents tool rest
      pure (content :: others, status)
    | .error e =>
      complain tool s!"{Bytes.text file}: {reason e}"
      let (others, _) ← contents tool rest
      pure (others, 1)

/-- The input where no file is given. -/
def filesOrInput (files : List Bytes) : List Bytes :=
  if files.isEmpty then [['-']] else files

/-- The lines of a text, each with its line feed. -/
def linesOf (pending : Bytes) : Bytes → List Bytes
  | [] => if pending.isEmpty then [] else [pending.reverse]
  | c :: cs =>
    if c = '\n' then ('\n' :: pending).reverse :: linesOf [] cs else linesOf (c :: pending) cs

/-- The options at the front of some arguments: the letters of those that start with a dash. -/
def flags : List Bytes → List Char × List Bytes
  | ['-', '-'] :: rest => ([], rest)
  | ('-' :: c :: cs) :: rest =>
    let (others, rest) := flags rest
    (c :: cs ++ others, rest)
  | args => ([], args)

/-- Prints files one after another. -/
def cat : Tool := fun args => do
  let (texts, status) ← contents "cat" (filesOrInput (flags args).2)
  print texts.flatten
  pure status

/-- Prints the input, and writes it to files. -/
def tee : Tool := fun args => do
  let (letters, names) := flags args
  let content ← Run.readAll
  print content
  let bytes := Bytes.toList8 content
  let write (files : FileSystem) (path : String) : Except SystemError FileSystem :=
    if letters.contains 'a' then files.append path bytes else files.write path bytes
  let mut status := 0
  for name in names do
    let path := Bytes.text name
    match write (← get).files path with
    | .ok files => modify fun m => { m with files }
    | .error e =>
      complain "tee" s!"{path}: {reason e}"
      status := 1
  pure status

/-- The number, the unit and the files of a command that takes a part of files. -/
def part : List Bytes → (Nat × Bool) × List Bytes
  | ['-', 'n'] :: n :: rest => ((Text.Numeral.value 10 n, true), rest)
  | ['-', 'c'] :: n :: rest => ((Text.Numeral.value 10 n, false), rest)
  | ('-' :: 'n' :: n) :: rest => ((Text.Numeral.value 10 n, true), rest)
  | ('-' :: 'c' :: n) :: rest => ((Text.Numeral.value 10 n, false), rest)
  | ('-' :: d :: n) :: rest =>
    if d.isDigit then ((Text.Numeral.value 10 (d :: n), true), rest)
    else ((10, true), ('-' :: d :: n) :: rest)
  | args => ((10, true), args)

/-- A file that zeros can be read from without end. -/
def isZeroDevice (file : Bytes) : Bool :=
  file = "/dev/zero".toList

/-- Prints the beginning of files. -/
def head : Tool := fun args => do
  let ((n, byLines), files) := part args
  if !byLines && files.all isZeroDevice && !files.isEmpty then
    print (List.replicate (n * files.length) '\x00')
    return 0
  let (texts, status) ← contents "head" (filesOrInput files)
  for text in texts do
    print (if byLines then ((linesOf [] text).take n).flatten else text.take n)
  pure status

/-- Prints the end of files. -/
def tail : Tool := fun args => do
  let ((n, byLines), files) := part args
  let (texts, status) ← contents "tail" (filesOrInput files)
  for text in texts do
    let last (k : Nat) := k - n
    let lines := linesOf [] text
    print (if byLines then (lines.drop (last lines.length)).flatten
      else text.drop (last text.length))
  pure status

/-- How many words a text has. -/
def countWords (cs : Bytes) : Nat :=
  let isBlank (c : Char) : Bool := [' ', '\t', '\n', '\x0b', '\x0c', '\r'].contains c
  (cs.foldl (fun (n, inWord) c =>
    if isBlank c then (n, false) else (if inWord then n else n + 1, true)) (0, false)).1

/-- Counts lines, words and bytes. -/
def wc : Tool := fun args => do
  let (letters, files) := flags args
  let (texts, status) ← contents "wc" (filesOrInput files)
  let wanted (c : Char) : Bool := letters.isEmpty || letters.contains c
  let single := letters.length = 1
  for (text, file) in texts.zip (filesOrInput files) do
    let counts :=
      (if wanted 'l' then [text.count '\n'] else []) ++
        (if wanted 'w' then [countWords text] else []) ++
        (if wanted 'c' || letters.contains 'm' then [text.length] else [])
    let width := if single then 1 else 7
    let shown := counts.map fun n =>
      let ds := (toString n).toList
      List.replicate (width - ds.length) ' ' ++ ds
    let name := if files.isEmpty then [] else ' ' :: file
    print ([' '].intercalate shown ++ name ++ ['\n'])
  pure status

/-- Prints the numbers from one to another. -/
def seq : Tool := fun args => do
  let number (cs : Bytes) : Int := (Format.numberOf cs).1
  let (first, step, last) :=
    match args.map number with
    | [last] => ((1 : Int), (1 : Int), last)
    | [first, last] => (first, 1, last)
    | [first, step, last] => (first, step, last)
    | _ => (1, 1, 0)
  let rounds := if step = 0 then 0 else ((last - first) / step + 1).toNat
  for k in List.range rounds do
    print (Bytes.ofInt (first + step * k) ++ ['\n'])
  pure 0

/-- Goes through arguments and gives the worst status. -/
def forAll (act : Bytes → Run Nat) : List Bytes → Run Nat
  | [] => pure 0
  | arg :: rest => do
    let status ← act arg
    pure (max status (← forAll act rest))

/-- Changes the files, or complains. -/
def changing (tool what : String) (change : FileSystem → Except SystemError FileSystem) :
    Run Nat := do
  match change (← get).files with
  | .ok files =>
    modify fun m => { m with files }
    pure 0
  | .error e =>
    complain tool s!"{what}: {reason e}"
    pure 1

/-- Makes directories. -/
def mkdir : Tool := fun args => do
  let (letters, names) := flags args
  forAll (fun name => do
    let path := Bytes.text name
    changing "mkdir" s!"cannot create directory '{path}'" fun files =>
      if letters.contains 'p' then
        match files.makeDirectories path with
        | (.ok (), files) => .ok files
        | (.error e, _) => .error e
      else files.makeDirectory path) names

/-- Removes empty directories. -/
def rmdir : Tool := forAll fun name => do
  let path := Bytes.text name
  changing "rmdir" s!"failed to remove '{path}'" fun files => do
    let (place, node) ← files.find path
    match node with
    | .directory =>
      if files.nodes.any fun e => (FileSystem.namesBelow? place e.1).isSome then
        .error (.other "Directory not empty")
      else files.remove path
    | .file .. => .error .notDirectory

/-- Removes files, and with `-r` directories. -/
def rm : Tool := fun args => do
  let (letters, names) := flags args
  let deep := letters.contains 'r' || letters.contains 'R'
  forAll (fun name => do
    let path := Bytes.text name
    if letters.contains 'f' && !(← get).files.pathExists path then pure 0
    else
      changing "rm" s!"cannot remove '{path}'" fun files =>
        if files.isDirectory path && !deep then .error .isDirectory else files.remove path) names

/-- Makes files that are not there. -/
def touch : Tool := forAll fun name => do
  let path := Bytes.text name
  changing "touch" s!"cannot touch '{path}'" fun files =>
    if files.isDirectory path then .ok files else files.append path []

/-- The path of a copy: within a directory, under the name of what is copied. -/
def destination (files : FileSystem) (source target : String) : String :=
  if files.isDirectory target then Path.join target ((Path.name? source).getD "") else target

/-- Copies a file. -/
def cp : Tool := fun args => do
  match (flags args).2 with
  | [source, target] =>
    let source := Bytes.text source
    let target := Bytes.text target
    changing "cp" s!"cannot stat '{source}'" fun files => do
      files.write (destination files source target) (← files.read source)
  | _ => pure 1

/-- Renames a file. -/
def mv : Tool := fun args => do
  match (flags args).2 with
  | [source, target] =>
    let source := Bytes.text source
    let target := Bytes.text target
    changing "mv" s!"cannot stat '{source}'" fun files => do
      let content ← files.read source
      (← files.remove source).write (destination files source target) content
  | _ => pure 1

/-- The names in a directory, in order, without those that start with a point, unless `all` are
wanted. -/
def namesIn (files : FileSystem) (all : Bool) (path : String) : List String :=
  match files.locate path with
  | .error _ => []
  | .ok place =>
    let names := files.nodes.filterMap fun e =>
      match FileSystem.namesBelow? place e.1 with
      | some [name] => if name.toList.head? = some '.' && !all then none else some name
      | _ => none
    ((if all then [".", ".."] else []) ++ names).mergeSort fun a b => decide (a ≤ b)

/-- Lists directories. -/
def ls : Tool := fun args => do
  let (letters, names) := flags args
  let all := letters.contains 'a'
  forAll (fun name => do
    let path := Bytes.text name
    let files := (← get).files
    if !files.pathExists path then
      complain "ls" s!"cannot access '{path}': No such file or directory"
      pure 2
    else
      for entry in if files.isDirectory path then namesIn files all path else [path] do
        print (Bytes.ofText entry ++ ['\n'])
      pure 0) (if names.isEmpty then [['.']] else names)

/-- Prints the last part of a path, without an ending that is given. -/
def basename : Tool := fun args => do
  let strip (cs : Bytes) : Bytes := (cs.reverse.dropWhile (· = '/')).reverse
  let name (path : Bytes) : Bytes :=
    if !path.isEmpty && path.all (· = '/') then ['/']
    else ((strip path).reverse.takeWhile (· ≠ '/')).reverse
  match args with
  | [path] => print (name path ++ ['\n'])
  | [path, ending] =>
    let base := name path
    let short := base.take (base.length - ending.length)
    print ((if short ≠ [] && short ++ ending = base then short else base) ++ ['\n'])
  | _ => pure ()
  pure (if args.isEmpty then 1 else 0)

/-- Prints a path without its last part. -/
def dirname : Tool := fun args => do
  for path in args do
    let strip (cs : Bytes) : Bytes := cs.dropWhile (· = '/')
    let above := (strip ((strip path.reverse).dropWhile (· ≠ '/'))).reverse
    let shown :=
      if !above.isEmpty then above else if path.head? = some '/' then ['/'] else ['.']
    print (shown ++ ['\n'])
  pure (if args.isEmpty then 1 else 0)

/-- Prints the variables that programs get to see. -/
def printEnvironment (args : List Bytes) : Run Nat := do
  let environment := (← get).environment
  match args with
  | [] =>
    for (name, value) in environment do
      print (name ++ '=' :: value ++ ['\n'])
    pure 0
  | names => forAll (fun name => do
      match environment.lookup name with
      | some value =>
        print (value ++ ['\n'])
        pure 0
      | none => pure 1) names

/-- Sorts lines. -/
def sort : Tool := fun args => do
  let (letters, files) := flags args
  let (texts, status) ← contents "sort" (filesOrInput files)
  let lines := linesOf [] texts.flatten
  let lines := lines.map fun l => if l.getLast? = some '\n' then l else l ++ ['\n']
  let sorted := lines.mergeSort fun a b =>
    if letters.contains 'n' then decide ((Format.numberOf a).1 ≤ (Format.numberOf b).1)
    else decide (String.ofList a ≤ String.ofList b)
  let sorted := if letters.contains 'u' then sorted.eraseDups else sorted
  print (if letters.contains 'r' then sorted.reverse else sorted).flatten
  pure status

/-- The characters that an operand of `tr` names. -/
def setOf : Bytes → Bytes
  | a :: '-' :: b :: rest =>
    if a ≤ b then
      (List.range (b.toNat - a.toNat + 1)).map (fun k => Char.ofNat (a.toNat + k)) ++ setOf rest
    else a :: setOf ('-' :: b :: rest)
  | c :: rest => c :: setOf rest
  | [] => []
termination_by cs => cs.length

/-- Replaces characters of the input, or deletes them. -/
def tr : Tool := fun args => do
  let (letters, operands) := flags args
  let sets := operands.map fun cs => setOf (Format.unescape (cs.length + 1) cs).text
  let input ← Run.readAll
  match sets with
  | [set] => print (if letters.contains 'd' then input.filter (!set.contains ·) else input)
  | [source, target] =>
    let replaced := input.map fun c =>
      match source.idxOf? c with
      | some k => ((target[k]?).or target.getLast?).getD c
      | none => c
    print replaced
  | _ => pure ()
  pure 0

/-- Prints its arguments.  Unlike the `echo` of the shell it leaves escapes alone. -/
def echo : Tool := fun args => do
  match args with
  | ['-', 'n'] :: rest => print ([' '].intercalate rest)
  | ['-', 'e'] :: rest => print (Format.echo rest)
  | args => print ([' '].intercalate args ++ ['\n'])
  pure 0

/-- Prints for a part of the shell, which complains where nothing can be printed. -/
def printFor (tool : String) (bytes : Bytes) : Run Nat := do
  if ← Run.write 1 bytes then pure 0
  else
    Run.complain s!"{tool}: {tool}: I/O error"
    pure 1

/-- Prints its arguments as a format says. -/
def printf : Tool := fun args => do
  match args with
  | [] | [['-', '-']] =>
    Run.complain "printf: usage: printf format [arg ...]"
    pure 2
  | ['-', '-'] :: format :: rest => formatted format rest
  | ('-' :: letter :: _) :: _ =>
    Run.complain s!"printf: Illegal option -{letter}"
    pure 2
  | format :: rest => formatted format rest
where
  /-- Prints arguments as a format says. -/
  formatted (format : Bytes) (args : List Bytes) : Run Nat := do
    let p := Format.printf (args.length + 1) format args
    let status ← printFor "printf" p.text
    for complaint in p.complaints do
      Run.complain s!"printf: {complaint}"
    let failure := if p.halted then 2 else 1
    pure (if p.complaints.isEmpty then status else failure)

/-- Tests a condition; in brackets, the last argument is the closing one. -/
def test (bracket : Bool) : Tool := fun args => do
  let name := if bracket then "[" else "test"
  if bracket && args.getLast? ≠ some [']'] then
    Run.complain s!"{name}: missing ]"
    pure 2
  else
    match Test.holds (← get).files (if bracket then args.dropLast else args) with
    | .ok true => pure 0
    | .ok false => pure 1
    | .error e =>
      Run.complain s!"{name}: {e.message}"
      pure 2

/-- The utility of a name. -/
def named? : String → Option Tool
  | "cat" => some cat
  | "tee" => some tee
  | "head" => some head
  | "tail" => some tail
  | "wc" => some wc
  | "seq" => some seq
  | "mkdir" => some mkdir
  | "rmdir" => some rmdir
  | "rm" => some rm
  | "touch" => some touch
  | "cp" => some cp
  | "mv" => some mv
  | "ls" => some ls
  | "basename" => some basename
  | "dirname" => some dirname
  | "printenv" => some printEnvironment
  | "sort" => some sort
  | "tr" => some tr
  | "sleep" => some fun _ => pure 0
  | "true" => some fun _ => pure 0
  | "false" => some fun _ => pure 1
  | "echo" => some echo
  | "printf" => some printf
  | "test" => some (test false)
  | "[" => some (test true)
  | "pwd" => some fun _ => do
    print (Bytes.ofText (← get).directory ++ ['\n'])
    pure 0
  | _ => none

end Worktop.Shell.Utility

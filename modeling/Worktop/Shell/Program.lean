import Worktop.Shell.Token

/-!
# Programs of the shell language

The structure of a script.  A script is run line by line, so a fault in it shows only when the lines
before it have been run.
-/

namespace Worktop.Shell

/-- What a descriptor is connected to before a command runs. -/
inductive Target where
  | input (file : Word)
  | output (file : Word)
  | append (file : Word)
  | both (file : Word)
  | duplicate (descriptor : Word)
  | here (text : Word)

/-- A descriptor and what it is connected to. -/
structure Redirect where
  descriptor : Nat
  target : Target

/-- A program. -/
inductive Program where
  | empty
  | simple (line : Nat) (assignments : List (Bytes × Word)) (words : List Word)
      (redirects : List Redirect)
  | redirected (body : Program) (redirects : List Redirect)
  | pipeline (stages : List Program)
  | negation (body : Program)
  | both (first second : Program)
  | either (first second : Program)
  | sequence (first second : Program)
  | background (body : Program)
  | subshell (body : Program)
  | choice (condition yes no : Program)
  | loop (untilTrue : Bool) (condition body : Program)
  | forEach (name : Bytes) (words : Option (List Word)) (body : Program)
  | cases (subject : Word) (arms : List (List Word × Program))
  | function (name : Bytes) (body : Program)

namespace Grammar

/-- Takes a program off the front of some tokens. -/
abbrev Parse (α : Type) := List Lexeme → Except (ScriptError × Nat) (α × List Lexeme)

/-- The words that mean something where a command starts. -/
def reserved : List String :=
  ["if", "then", "else", "elif", "fi", "do", "done", "case", "esac", "while", "until", "for", "\x7b",
    "\x7d", "!", "in"]

/-- The reserved word or operator that a token is. -/
def mark? : Token → Option String
  | .operator op => some op
  | .word w =>
    match w.bare? with
    | some cs => if reserved.contains (String.ofList cs) then some (String.ofList cs) else none
    | none => none
  | _ => none

/-- What the first token is, if it is a mark. -/
def first? : List Lexeme → Option String
  | [] => none
  | t :: _ => mark? t.token

/-- How an error calls the first token.  A redirection without a word is what follows it. -/
def describe (last : Nat) : List Lexeme → String × Nat
  | [] => ("end of file", last)
  | t :: rest =>
    match t.token, mark? t.token with
    | .newLine, _ => ("newline", t.line + 1)
    | .number _, _ => describe last rest
    | .here _, _ => ("redirection", t.line)
    | .operator op, _ =>
      if Lexer.isRedirection op && !startsWithWord rest then describe last rest
      else (Lexer.describeOperator op, t.line)
    | _, some mark => (s!"\"{mark}\"", t.line)
    | _, none => ("word", t.line)
where
  /-- Whether a word comes first. -/
  startsWithWord : List Lexeme → Bool
    | { token := .word _, .. } :: _ => true
    | _ => false

/-- The error that something else was to come.  Line zero stands for the last line. -/
def refuse {α : Type} (ts : List Lexeme) (expected : Option String := none) :
    Except (ScriptError × Nat) α :=
  let (token, line) := describe 0 ts
  .error (.unexpected token expected, line)

/-- The error that a certain mark was to come. -/
def refuseFor {α : Type} (mark : String) (ts : List Lexeme) : Except (ScriptError × Nat) α :=
  refuse ts s!"\"{mark}\""

/-- Takes a certain mark. -/
def expect (mark : String) (ts : List Lexeme) : Except (ScriptError × Nat) (List Lexeme) :=
  if first? ts = some mark then .ok ts.tail else refuseFor mark ts

/-- Skips line ends. -/
def skipLines : List Lexeme → List Lexeme
  | [] => []
  | t :: ts =>
    match t.token with
    | .newLine => skipLines ts
    | _ => t :: ts

/-- A redirection; `number` is the descriptor, if it is given. -/
def redirect? (number : Option Nat) : List Lexeme → Option (Redirect × List Lexeme)
  | { token := .here text, .. } :: rest =>
    some ({ descriptor := number.getD 0, target := .here text }, rest)
  | { token := .operator op, .. } :: { token := .word w, .. } :: rest =>
    let made (descriptor : Nat) (target : Target) :=
      some ({ descriptor := number.getD descriptor, target : Redirect }, rest)
    match op with
    | "<" => made 0 (.input w)
    | ">" | ">|" => made 1 (.output w)
    | ">>" => made 1 (.append w)
    | "<>" => made 0 (.both w)
    | "<&" => made 0 (.duplicate w)
    | ">&" => made 1 (.duplicate w)
    | _ => none
  | _ => none

/-- Redirections at the front of some tokens. -/
def redirects : Nat → List Lexeme → List Redirect × List Lexeme
  | 0, ts => ([], ts)
  | fuel + 1, ts =>
    let found :=
      match ts with
      | { token := .number n, .. } :: rest => redirect? (some n) rest
      | _ => redirect? none ts
    match found with
    | some (r, rest) =>
      let (rs, rest) := redirects fuel rest
      (r :: rs, rest)
    | none => ([], ts)

/-- The name and the value of a word that is an assignment. -/
def assignment? (w : Word) : Option (Bytes × Word) :=
  go [] w
where
  /-- Looks for the equals sign behind the characters of a name. -/
  go (name : Bytes) : Word → Option (Bytes × Word)
    | .text false cs :: rest =>
      match cs with
      | ['='] => if isName name then some (name, rest) else none
      | _ => go (name ++ cs) rest
    | _ => none

/-- The parts of a simple command. -/
structure Simple where
  assignments : List (Bytes × Word) := []
  words : List Word := []
  redirects : List Redirect := []

/-- The assignments, words and redirections of a simple command, in any order, but assignments only
before the first word. -/
def simpleParts : Nat → Simple → List Lexeme → Simple × List Lexeme
  | 0, s, ts => (s, ts)
  | fuel + 1, s, ts =>
    match redirects 1 ts with
    | (r :: _, rest) => simpleParts fuel { s with redirects := s.redirects ++ [r] } rest
    | ([], _) =>
      match ts with
      | { token := .word w, .. } :: rest =>
        match s.words, assignment? w with
        | [], some a => simpleParts fuel { s with assignments := s.assignments ++ [a] } rest
        | _, _ => simpleParts fuel { s with words := s.words ++ [w] } rest
      | _ => (s, ts)

/-- Words at the front of some tokens. -/
def wordsOf : List Lexeme → List Word × List Lexeme
  | { token := .word w, .. } :: rest =>
    let (ws, rest) := wordsOf rest
    (w :: ws, rest)
  | ts => ([], ts)

/-- Commands that no function can be named after: also those whose assignments stay. -/
def special : List String :=
  [":", ".", "break", "continue", "eval", "exec", "exit", "export", "readonly", "return", "set",
    "shift", "times", "trap", "unset"]

/-- Takes the end of the words of a loop: a semicolon, or the end of the line. -/
def endOfWords : List Lexeme → Except (ScriptError × Nat) (List Lexeme)
  | { token := .newLine, .. } :: rest | { token := .operator ";", .. } :: rest => .ok rest
  | ts => refuse ts

/-- The name of a function that is about to be defined, if a word with parentheses behind it comes
first. -/
def functionName (ts : List Lexeme) :
    Except (ScriptError × Nat) (Option (Bytes × List Lexeme)) :=
  match ts with
  | { token := .word w, .. } :: { token := .operator "(", line } :: rest =>
    if (first? ts).isSome || (assignment? w).isSome then .ok none
    else if first? rest ≠ some ")" then refuseFor ")" rest
    else
      let isFree (name : Bytes) : Bool := isName name && !special.contains (String.ofList name)
      match w.bare?.filter isFree with
      | some name => .ok (some (name, rest.tail))
      | none => .error (.badFunctionName, line)
  | _ => .ok none

/-- The patterns of an arm, up to the parenthesis behind them. -/
def patterns : List Lexeme → Except (ScriptError × Nat) (List Word × List Lexeme)
  | { token := .word w, .. } :: { token := .operator "|", .. } :: rest =>
    (patterns rest).map fun (ws, rest) => (w :: ws, rest)
  | { token := .word w, .. } :: { token := .operator ")", .. } :: rest => .ok ([w], rest)
  | ts => refuseFor ")" ts.tail

/-- Marks that end a list of commands. -/
def endsList (ts : List Lexeme) : Bool :=
  match first? ts with
  | some mark =>
    ["then", "else", "elif", "fi", "do", "done", "esac", "\x7d", ")", ";;"].contains mark
  | none => ts.isEmpty

mutual

/-- A list of commands; in a body it may run over several lines. -/
def list : Nat → Bool → Parse Program
  | 0, _, ts => refuse ts
  | fuel + 1, inBody, ts => do
    let ts := if inBody then skipLines ts else ts
    if ts.isEmpty then return (.empty, [])
    let (first, rest) ← andOr fuel ts
    let last := if inBody then skipLines else id
    match rest with
    | { token := .operator ";", .. } :: rest =>
      let rest := last rest
      if endsHere inBody rest then .ok (first, rest)
      else
        let (second, rest) ← list fuel inBody rest
        .ok (.sequence first second, rest)
    | { token := .operator "&", .. } :: rest =>
      let rest := last rest
      if endsHere inBody rest then .ok (.background first, rest)
      else
        let (second, rest) ← list fuel inBody rest
        .ok (.sequence (.background first) second, rest)
    | { token := .newLine, .. } :: _ =>
      let rest := last rest
      if !inBody || endsList rest then .ok (first, rest)
      else
        let (second, rest) ← list fuel inBody rest
        .ok (.sequence first second, rest)
    | _ => .ok (first, rest)
where
  /-- Whether a list that could go on ends instead. -/
  endsHere (inBody : Bool) (ts : List Lexeme) : Bool :=
    endsList ts ||
      match ts with
      | { token := .newLine, .. } :: _ => !inBody
      | _ => false

/-- Pipelines with `&&` and `||` between them, which bind to the left. -/
def andOr : Nat → Parse Program
  | 0, ts => refuse ts
  | fuel + 1, ts => do
    let (first, rest) ← pipeline fuel ts
    andOrTail fuel first rest

/-- The rest of such a row behind its beginning. -/
def andOrTail : Nat → Program → Parse Program
  | 0, _, ts => refuse ts
  | fuel + 1, left, ts => do
    match first? ts with
    | some "&&" =>
      let (right, rest) ← pipeline fuel (skipLines ts.tail)
      andOrTail fuel (.both left right) rest
    | some "||" =>
      let (right, rest) ← pipeline fuel (skipLines ts.tail)
      andOrTail fuel (.either left right) rest
    | _ => .ok (left, ts)

/-- Commands with pipes between them, perhaps negated. -/
def pipeline : Nat → Parse Program
  | 0, ts => refuse ts
  | fuel + 1, ts => do
    if first? ts = some "!" then
      let (body, rest) ← pipeline fuel ts.tail
      .ok (.negation body, rest)
    else
      match ← stages fuel ts with
      | ([one], rest) => .ok (one, rest)
      | (several, rest) => .ok (.pipeline several, rest)

/-- The commands of a pipeline. -/
def stages : Nat → Parse (List Program)
  | 0, ts => refuse ts
  | fuel + 1, ts => do
    let (first, rest) ← command fuel ts
    if first? rest = some "|" then
      let (others, rest) ← stages fuel (skipLines rest.tail)
      .ok (first :: others, rest)
    else .ok ([first], rest)

/-- A command with its redirections. -/
def command : Nat → Parse Program
  | 0, ts => refuse ts
  | fuel + 1, ts => do
    let line := (ts.head?.map (·.line)).getD 1
    let compound (result : Program × List Lexeme) : Program × List Lexeme :=
      match redirects result.2.length result.2 with
      | ([], rest) => (result.1, rest)
      | (rs, rest) => (.redirected result.1 rs, rest)
    match ← functionName ts with
    | some (name, rest) =>
      let (body, rest) ← command fuel (skipLines rest)
      .ok (.function name body, rest)
    | none =>
      match first? ts with
      | some "if" => do
        let (body, rest) ← choice fuel ts.tail
        .ok (compound (body, rest))
      | some "while" => (loopTail fuel false ts.tail).map compound
      | some "until" => (loopTail fuel true ts.tail).map compound
      | some "for" => (forTail fuel ts.tail).map compound
      | some "case" => (casesTail fuel ts.tail).map compound
      | some "(" => do
        let (body, rest) ← list fuel true ts.tail
        .ok (compound (.subshell body, ← expect ")" rest))
      | some "\x7b" => do
        let (body, rest) ← list fuel true ts.tail
        .ok (compound (body, ← expect "\x7d" rest))
      | some mark =>
        if ["<", ">", ">>", "<&", ">&", "<>", ">|"].contains mark then simple line ts
        else refuse ts
      | none => simple line ts
where
  /-- A simple command; there must be something of one. -/
  simple (line : Nat) (ts : List Lexeme) : Except (ScriptError × Nat) (Program × List Lexeme) :=
    match simpleParts ts.length {} ts with
    | ({ assignments := [], words := [], redirects := [] }, _) => refuse ts
    | (s, rest) => .ok (.simple line s.assignments s.words s.redirects, rest)

/-- A choice behind its first word. -/
def choice : Nat → Parse Program
  | 0, ts => refuse ts
  | fuel + 1, ts => do
    let (condition, rest) ← list fuel true ts
    let (yes, rest) ← list fuel true (← expect "then" rest)
    match first? rest with
    | some "elif" =>
      let (no, rest) ← choice fuel rest.tail
      .ok (.choice condition yes no, rest)
    | some "else" =>
      let (no, rest) ← list fuel true rest.tail
      .ok (.choice condition yes no, ← expect "fi" rest)
    | _ => .ok (.choice condition yes .empty, ← expect "fi" rest)

/-- A loop behind its first word. -/
def loopTail : Nat → Bool → Parse Program
  | 0, _, ts => refuse ts
  | fuel + 1, untilTrue, ts => do
    let (condition, rest) ← list fuel true ts
    let (body, rest) ← list fuel true (← expect "do" rest)
    .ok (.loop untilTrue condition body, ← expect "done" rest)

/-- A loop over words behind its first word. -/
def forTail : Nat → Parse Program
  | 0, ts => refuse ts
  | fuel + 1, ts => do
    match ts with
    | { token := .word w, line } :: rest =>
      match w.bare?.filter isName with
      | none => .error (.badLoopVariable, line)
      | some name =>
        let rest := skipLines rest
        let (words, rest) ←
          if first? rest = some "in" then do
            let (ws, rest) := wordsOf rest.tail
            .ok (some ws, ← endOfWords rest)
          else .ok (none, if first? rest = some ";" then rest.tail else rest)
        let (body, rest) ← list fuel true (← expect "do" (skipLines rest))
        .ok (.forEach name words body, ← expect "done" rest)
    | t :: _ => .error (.badLoopVariable, t.line)
    | [] => .error (.badLoopVariable, 0)

/-- A case distinction behind its first word. -/
def casesTail : Nat → Parse Program
  | 0, ts => refuse ts
  | fuel + 1, ts => do
    match ts with
    | { token := .word subject, .. } :: rest =>
      let (arms, rest) ← arms fuel (← expect "in" (skipLines rest))
      .ok (.cases subject arms, rest)
    | _ => refuse ts "word"

/-- The arms of a case distinction, up to its last word. -/
def arms : Nat → Parse (List (List Word × Program))
  | 0, ts => refuse ts
  | fuel + 1, ts => do
    let ts := skipLines ts
    if first? ts = some "esac" then .ok ([], ts.tail)
    else
      let ts := if first? ts = some "(" then ts.tail else ts
      let (words, rest) ← patterns ts
      let rest := skipLines rest
      let (body, rest) ← if endsList rest then .ok (.empty, rest) else list fuel true rest
      let rest := skipLines rest
      match first? rest with
      | some ";;" =>
        let (others, rest) ← arms fuel rest.tail
        .ok ((words, body) :: others, rest)
      | some "esac" => .ok ([(words, body)], rest.tail)
      | _ => refuseFor ";;" rest

end

/-- The programs of the lines of some tokens, up to an error. -/
def programs : Nat → List Lexeme → List Program × Option (ScriptError × Nat)
  | 0, _ => ([], none)
  | fuel + 1, ts =>
    match skipLines ts with
    | [] => ([], none)
    | ts =>
      match list (8 * ts.length + 8) false ts with
      | .error e => ([], some e)
      | .ok (program, rest) =>
        match rest with
        | [] => ([program], none)
        | { token := .newLine, .. } :: rest =>
          let (others, e) := programs fuel rest
          (program :: others, e)
        | _ =>
          let (token, line) := describe 0 rest
          ([], some (.unexpected token none, line))

end Grammar

/-- The programs of a script, one for each line or each group of lines that belong together, up to
an error. -/
def Program.ofScript (script : Bytes) : List Program × Option (ScriptError × Nat) :=
  let (ts, fault) := Lexer.tokens (2 * script.length + 2) 1 script
  let last := 1 + script.count '\n'
  match fault with
  | none =>
    let (before, fault) := Grammar.programs (ts.length + 1) ts
    (before, fault.map fun (e, line) => (e, if line = 0 then last else line))
  | some fault =>
    let (before, _) := Grammar.programs (ts.length + 1) (ts.filter (·.line < fault.line))
    (before, some (fault.error, fault.toldLine))

end Worktop.Shell

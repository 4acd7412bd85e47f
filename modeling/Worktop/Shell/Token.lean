import Worktop.Shell.Word

/-!
# Tokens of the shell language

Words, operators and line ends.
-/

namespace Worktop.Shell

/-- A token.  `number` is a number right before a redirection, and `here` the text given in the
script itself as the input of a command. -/
inductive Token where
  | word (word : Word)
  | operator (text : String)
  | number (n : Nat)
  | here (text : Word)
  | newLine

/-- A token and the line that it stands in. -/
structure Lexeme where
  token : Token
  line : Nat

/-- Why a text is no script. -/
inductive ScriptError where
  | unterminatedQuote
  | unterminatedBackquote
  | missingBrace
  | missingParentheses
  | badSubstitution
  | badFunctionName
  | badLoopVariable
  | unexpected (token : String) (expected : Option String)
  deriving DecidableEq, Repr

/-- The text of an error. -/
def ScriptError.message : ScriptError → String
  | unterminatedQuote => "Syntax error: Unterminated quoted string"
  | unterminatedBackquote => "Syntax error: EOF in backquote substitution"
  | missingBrace => "Syntax error: Missing '\x7d'"
  | missingParentheses => "Syntax error: Missing '))'"
  | badSubstitution => "Bad substitution"
  | badFunctionName => "Syntax error: Bad function name"
  | badLoopVariable => "Syntax error: Bad for loop variable"
  | unexpected token none => s!"Syntax error: {token} unexpected"
  | unexpected token (some expected) =>
    s!"Syntax error: {token} unexpected (expecting {expected})"

namespace Lexer

/-- Reads something off the front of a script. -/
abbrev Lex (α : Type) := Bytes → Except ScriptError (α × Bytes)

/-- Where the reading of a word is: in the open, between the braces of a parameter, between double
quotes, or in a text that only has expansions. -/
inductive Mode where
  | bare
  | braces (quoted : Bool)
  | double
  | plain
  deriving DecidableEq

/-- Whether what is read is quoted. -/
def Mode.quoted : Mode → Bool
  | bare => false
  | braces quoted => quoted
  | double | plain => true

/-- Characters that end a word. -/
def endsWord (c : Char) : Bool :=
  [' ', '\t', '\n', '|', '&', ';', '<', '>', '(', ')'].contains c

/-- Characters that lose their meaning behind a backslash between double quotes. -/
def isEscapable (c : Char) : Bool :=
  ['$', '`', '"', '\\'].contains c

/-- The text up to a single quote. -/
def singleQuoted : Lex Bytes
  | [] => .error .unterminatedQuote
  | c :: rest =>
    if c = '\'' then .ok ([], rest)
    else (singleQuoted rest).map fun (cs, rest) => (c :: cs, rest)

/-- The text up to a backquote, in which a backslash takes the meaning from some characters. -/
def backquoted (quoted : Bool) : Lex Bytes
  | [] => .error .unterminatedBackquote
  | '\\' :: c :: rest =>
    let kept := if c = '`' || c = '\\' || c = '$' || (quoted && c = '"') then [c] else ['\\', c]
    (backquoted quoted rest).map fun (cs, rest) => (kept ++ cs, rest)
  | c :: rest =>
    if c = '`' then .ok ([], rest)
    else (backquoted quoted rest).map fun (cs, rest) => (c :: cs, rest)

/-- Which quotes a character stands in. -/
inductive Quoting where
  | none
  | single
  | double
  deriving DecidableEq

/-- The text up to the parenthesis that closes those around it. -/
def parenthesized (quoting : Quoting) (depth : Nat) : Lex Bytes
  | [] =>
    .error (if quoting = .none then .unexpected "end of file" (some "\")\"")
      else .unterminatedQuote)
  | '\\' :: c :: rest =>
    if quoting = .single then
      if c = '\'' then
        (parenthesized .none depth rest).map fun (cs, rest) => ('\\' :: c :: cs, rest)
      else (parenthesized .single depth rest).map fun (cs, rest) => ('\\' :: c :: cs, rest)
    else (parenthesized quoting depth rest).map fun (cs, rest) => ('\\' :: c :: cs, rest)
  | c :: rest =>
    let next (quoting : Quoting) (depth : Nat) :=
      (parenthesized quoting depth rest).map fun (cs, rest) => (c :: cs, rest)
    match quoting with
    | .single => next (if c = '\'' then .none else .single) depth
    | .double => next (if c = '"' then .none else .double) depth
    | .none =>
      if c = '\'' then next .single depth
      else if c = '"' then next .double depth
      else if c = '(' then next .none (depth + 1)
      else if c = ')' then
        match depth with
        | 0 => .ok ([], rest)
        | depth + 1 => next .none depth
      else next .none depth

/-- Parameters with a name of one character that is no letter. -/
def isSpecial (c : Char) : Bool :=
  c.isDigit || ['@', '*', '#', '?', '-', '$', '!'].contains c

/-- The name of a parameter between braces. -/
def nameInBraces : Bytes → Bytes × Bytes
  | [] => ([], [])
  | c :: rest =>
    if isNameStart c then
      let name := (c :: rest).takeWhile isNameChar
      (name, (c :: rest).drop name.length)
    else if c.isDigit then
      let name := (c :: rest).takeWhile Char.isDigit
      (name, (c :: rest).drop name.length)
    else if isSpecial c then ([c], rest)
    else ([], c :: rest)

mutual

/-- The pieces of a word, up to where its mode ends. -/
def pieces : Nat → Mode → Lex Word
  | 0, _, _ => .error .badSubstitution
  | fuel + 1, mode, cs =>
    match cs with
    | [] =>
      match mode with
      | .bare | .plain => .ok ([], [])
      | .double => .error .unterminatedQuote
      | .braces _ => .error .missingBrace
    | c :: rest =>
      let more (piece : Piece) (rest : Bytes) : Except ScriptError (Word × Bytes) :=
        (pieces fuel mode rest).map fun (ps, rest) => (piece :: ps, rest)
      if mode = .bare && endsWord c then .ok ([], c :: rest)
      else if mode = .double && c = '"' then .ok ([], rest)
      else if c = '\x7d' && (mode = .braces true || mode = .braces false) then .ok ([], rest)
      else if c = '\\' then
        match rest with
        | [] => more (.text mode.quoted ['\\']) []
        | d :: rest' =>
          if d = '\n' then pieces fuel mode rest'
          else if !mode.quoted || isEscapable d || (mode = .braces true && d = '\x7d') then
            more (.text true [d]) rest'
          else more (.text true ['\\']) rest
      else if c = '\'' && !mode.quoted then do
        let (quoted, rest) ← singleQuoted rest
        more (.text true quoted) rest
      else if c = '"' && mode ≠ .plain then do
        let (inner, rest) ← pieces fuel .double rest
        let (ps, rest) ← pieces fuel mode rest
        .ok (.text true [] :: inner ++ ps, rest)
      else if c = '`' then do
        let (source, rest) ← backquoted (mode = .double) rest
        more (.command mode.quoted source) rest
      else if c = '$' then do
        match ← dollar fuel mode.quoted rest with
        | (some piece, rest) => more piece rest
        | (none, rest) => more (.text mode.quoted ['$']) rest
      else more (.text mode.quoted [c]) rest

/-- An expansion behind its dollar sign, if it is one. -/
def dollar : Nat → Bool → Lex (Option Piece)
  | 0, _, _ => .error .badSubstitution
  | fuel + 1, quoted, cs =>
    match cs with
    | '\x7b' :: rest => (parameter fuel quoted rest).map fun (p, rest) => (some p, rest)
    | '(' :: '(' :: rest => do
      match parenthesized .none 0 rest with
      | .ok (inner, ')' :: rest) =>
        let (expression, _) ← pieces fuel .plain inner
        .ok (some (.arithmetic quoted expression), rest)
      | _ => .error .missingParentheses
    | '(' :: rest => do
      let (source, rest) ← parenthesized .none 0 rest
      .ok (some (.command quoted source), rest)
    | c :: rest =>
      if isNameStart c then
        let name := cs.takeWhile isNameChar
        .ok (some (.parameter quoted name .value), cs.drop name.length)
      else if isSpecial c then .ok (some (.parameter quoted [c] .value), rest)
      else .ok (none, cs)
    | [] => .ok (none, [])

/-- A parameter behind its opening brace. -/
def parameter : Nat → Bool → Lex Piece
  | 0, _, _ => .error .badSubstitution
  | fuel + 1, quoted, cs =>
    let length? : Option (Bytes × Bytes) :=
      match cs with
      | '#' :: rest =>
        match nameInBraces rest with
        | (name, '\x7d' :: rest) => if name.isEmpty then none else some (name, rest)
        | _ => none
      | _ => none
    match length? with
    | some (name, rest) => .ok (.parameter quoted name .length, rest)
    | none =>
      let (name, rest) := nameInBraces cs
      let useWith (use : Word → Use) (rest : Bytes) : Except ScriptError (Piece × Bytes) := do
        let (word, rest) ← pieces fuel (.braces quoted) rest
        .ok (.parameter quoted name (use word), rest)
      let trimWith (fromEnd longest : Bool) (rest : Bytes) : Except ScriptError (Piece × Bytes) := do
        let (word, rest) ← pieces fuel (.braces false) rest
        .ok (.parameter quoted name (.trim fromEnd longest word), rest)
      if name.isEmpty then useWith (fun _ => .bad) rest
      else
        match rest with
        | '\x7d' :: rest => .ok (.parameter quoted name .value, rest)
        | ':' :: '-' :: rest => useWith (.default true) rest
        | ':' :: '=' :: rest => useWith (.assign true) rest
        | ':' :: '?' :: rest => useWith (.demand true) rest
        | ':' :: '+' :: rest => useWith (.alternative true) rest
        | '-' :: rest => useWith (.default false) rest
        | '=' :: rest => useWith (.assign false) rest
        | '?' :: rest => useWith (.demand false) rest
        | '+' :: rest => useWith (.alternative false) rest
        | '%' :: '%' :: rest => trimWith true true rest
        | '%' :: rest => trimWith true false rest
        | '#' :: '#' :: rest => trimWith false true rest
        | '#' :: rest => trimWith false false rest
        | [] => .error .missingBrace
        | _ => useWith (fun _ => .bad) rest

end

/-- A word, as long as it goes. -/
def word : Lex Word := fun cs => pieces (2 * cs.length + 2) .bare cs

/-- The operators, each before those that it starts with. -/
def operators : List String :=
  ["&&", "||", ";;", "<<-", "<<", ">>", "<&", ">&", "<>", ">|", "&", "|", ";", "(", ")", "<", ">"]

/-- The operator that a text starts with. -/
def operator? (cs : Bytes) : Option (String × Bytes) :=
  (operators.find? fun op => op.toList.isPrefixOf cs).map fun op => (op, cs.drop op.length)

/-- The text of a word that has only quotes taken away, and whether it had any. -/
def delimiter (w : Word) : Bytes × Bool :=
  let text : Piece → Bytes × Bool
    | .text quoted cs => (cs, quoted)
    | _ => ([], false)
  ((w.map fun p => (text p).1).flatten, w.any fun p => (text p).2)

/-- The lines up to one that is a delimiter, and what follows it.  The last line has no line feed. -/
def linesUpTo (strip : Bool) (stop : Bytes) : List Bytes → Bytes × List Bytes
  | [] => ([], [])
  | line :: rest =>
    let line := if strip then line.dropWhile (· = '\t') else line
    if line = stop then ([], rest)
    else if rest.isEmpty then (line, [])
    else
      let (text, rest) := linesUpTo strip stop rest
      (line ++ '\n' :: text, rest)

/-- The pieces between line feeds: one more than there are line feeds. -/
def splitLines : Bytes → List Bytes
  | [] => [[]]
  | c :: cs =>
    match splitLines cs with
    | [] => [[c]]
    | line :: rest => if c = '\n' then [] :: line :: rest else (c :: line) :: rest

/-- Takes the text that ends at a delimiter out of the lines below the current one. -/
def hereText (strip : Bool) (stop cs : Bytes) : Bytes × Bytes :=
  match splitLines cs with
  | [] => ([], [])
  | current :: below =>
    let (text, rest) := linesUpTo strip stop below
    (text, ['\n'].intercalate (current :: rest))

/-- The number that a word right before a redirection is. -/
def redirectedNumber? (cs : Bytes) : Option (Nat × Bytes) :=
  let digits := cs.takeWhile Char.isDigit
  let rest := cs.drop digits.length
  if digits.isEmpty then none
  else if rest.head? = some '<' || rest.head? = some '>' then
    some (digits.foldl (fun n d => n * 10 + (d.toNat - '0'.toNat)) 0, rest)
  else none

/-- Whether an operator connects a descriptor. -/
def isRedirection (op : String) : Bool :=
  op.toList.head? = some '<' || op.toList.head? = some '>'

/-- How an error calls an operator. -/
def describeOperator (op : String) : String :=
  if isRedirection op then "redirection" else s!"\"{op}\""

/-- How an error calls what stands where a word was to come, and whether it is the end of a line. -/
def describeNoWord (cs : Bytes) : String × Bool :=
  match cs, operator? cs with
  | [], _ => ("end of file", false)
  | '\n' :: _, _ => ("newline", true)
  | _, some (op, _) => (describeOperator op, false)
  | _, none => ("word", false)

/-- An error that no token comes out of: the line of the token, and the line of the end, which is the
line that is told. -/
structure Fault where
  error : ScriptError
  line : Nat
  toldLine : Nat

/-- The tokens of a script up to the end, or up to an error, from a line on.  Each takes one off the
fuel. -/
def tokens : Nat → Nat → Bytes → List Lexeme × Option Fault
  | 0, _, _ => ([], none)
  | fuel + 1, line, cs =>
    let fail (error : ScriptError) : List Lexeme × Option Fault :=
      ([], some { error, line, toldLine := line + cs.count '\n' })
    let give (token : Token) (line' : Nat) (rest : Bytes) :=
      let (ts, e) := tokens fuel line' rest
      ({ token, line : Lexeme } :: ts, e)
    match cs with
    | [] => ([], none)
    | '\\' :: '\n' :: rest => tokens fuel (line + 1) rest
    | c :: rest =>
      if c = ' ' || c = '\t' then tokens fuel line rest
      else if c = '\n' then give .newLine (line + 1) rest
      else if c = '#' then tokens fuel line (rest.dropWhile (· ≠ '\n'))
      else
        match redirectedNumber? cs with
        | some (n, rest) => give (.number n) line rest
        | none =>
          match operator? cs with
          | some (op, rest) =>
            if op = "<<" || op = "<<-" then
              match word (rest.dropWhile fun c => c = ' ' || c = '\t') with
              | .error e => fail e
              | .ok ([], rest) =>
                let (found, ended) := describeNoWord rest
                let toldLine := if ended then line + 1 else line
                ([], some { error := .unexpected found none, line, toldLine })
              | .ok (w, rest) =>
                let (stop, quoted) := delimiter w
                let (text, rest) := hereText (op = "<<-") stop rest
                let body :=
                  if quoted then .ok ([.text true text], [])
                  else pieces (2 * text.length + 2) .plain text
                match body with
                | .error e => fail e
                | .ok (body, _) => give (.here body) line rest
            else give (.operator op) line rest
          | none =>
            match word cs with
            | .error e => fail e
            | .ok (w, rest) =>
              let read := cs.take (cs.length - rest.length)
              give (.word w) (line + read.count '\n') rest

end Lexer

end Worktop.Shell

import Worktop.Proofs.Shell.Reading
import Worktop.Shell.Token

/-! # Recognizing tokens

How a shell tells the tokens of a script by POSIX, one character after another
(`Worktop.Shell.Scan.step`): what is quoted, what belongs to an expansion, to a comment or to a
here-document, and where words, operators and lines end. What has been read matters for the rest by
the state behind it alone (`Worktop.Shell.Scan.run_append`). A command substitution is taken to end
at the first parenthesis that none inside it opened, and to have in it the here-documents that it
announces: patterns of `case` need both parentheses there.
-/

namespace Worktop.Shell

/-- A token, with the text that it was read from. A line that announces here-documents ends where the
last of them does. -/
inductive Scanned where
  | word (source : List Char)
  | operator (source : List Char)
  | lineEnd
  deriving DecidableEq, Repr

namespace Scan

/-! ## Here-documents -/

/-- A here-document: the line that ends it, whether a backslash in it means itself, and whether tabs
in front of its lines are dropped. -/
structure Here where
  delimiter : List Char
  literal : Bool
  strip : Bool
  deriving DecidableEq, Repr

/-- The text of a word without its quotes; `within` is the quote that is open. -/
def unquote (within : Option Char) : List Char → List Char
  | [] => []
  | '\\' :: c :: cs =>
    if within = none || (within = some '"' && Lexer.isEscapable c) then c :: unquote within cs
    else '\\' :: unquote within (c :: cs)
  | c :: cs =>
    if within = some c then unquote none cs
    else if within = none && (c = '"' || c = '\'') then unquote (some c) cs
    else c :: unquote within cs

namespace Here

/-- The here-document that a word announces. -/
def ofWord (source : List Char) (strip : Bool) : Here where
  delimiter := unquote none source
  literal := source.any ['\\', '\'', '"'].contains
  strip

/-- A line goes on behind its line feed, which is hidden by a backslash. -/
def continues (here : Here) (line : List Char) : Bool :=
  !here.literal && (line.reverse.takeWhile (· = '\\')).length % 2 = 1

/-- A line ends the here-document. -/
def endedBy (here : Here) (line : List Char) : Bool :=
  (if here.strip then line.dropWhile (· = '\t') else line) = here.delimiter

end Here

/-! ## Commands -/

/-- Where the reading of commands is. -/
inductive Spot where
  | between
  | word (source : List Char)
  | operator (source : List Char)
  | comment
  | document (here : Here) (others : List Here) (line : List Char)
  deriving DecidableEq, Repr

/-- The reading of commands: where it is, whether the next word announces a here-document, and
whether tabs are dropped in it, and the here-documents below the current line. -/
structure Level where
  spot : Spot := .between
  announced : Option Bool := none
  due : List Here := []
  deriving DecidableEq, Repr

/-- A text is one of the operators. -/
def isOperator (source : List Char) : Bool :=
  (Lexer.operators.map String.toList).contains source

namespace Level

/-- What stands there is text, in which quotes mean nothing. -/
def isText (l : Level) : Bool :=
  match l.spot with
  | .comment | .document .. => true
  | _ => false

/-- The current token is at its end. -/
def delimit (l : Level) : Level × List Scanned :=
  match l.spot with
  | .word source =>
    ({ l with spot := .between, announced := none,
              due := l.due ++ (l.announced.map (Here.ofWord source)).toList }, [.word source])
  | .operator source => ({ l with spot := .between }, [.operator source])
  | _ => ({ l with spot := .between }, [])

/-- A character is part of a word. -/
def extend (l : Level) (c : Char) : Level × List Scanned :=
  match l.spot with
  | .word source => ({ l with spot := .word (source ++ [c]) }, [])
  | _ => ({ l.delimit.1 with spot := .word [c] }, l.delimit.2)

/-- A character is part of a word that goes on around an expansion. -/
def note (c : Char) (l : Level) : Level :=
  match l.spot with
  | .word source => { l with spot := .word (source ++ [c]) }
  | _ => l

/-- An operator has been read so far. -/
def operate (l : Level) (source : List Char) : Level :=
  { l with
    spot := .operator source
    announced :=
      if source = ['<', '<'] then some false
      else if source = ['<', '<', '-'] then some true
      else l.announced }

/-- A line is at its end, unless here-documents follow. -/
def endLine (l : Level) : Level × List Scanned :=
  match l.delimit.1.due with
  | [] => (l.delimit.1, l.delimit.2 ++ [.lineEnd])
  | here :: others =>
    ({ l.delimit.1 with spot := .document here others [], due := [] }, l.delimit.2)

/-- A character that is not part of what was read before it, unless that is a word. -/
def readApart (l : Level) (c : Char) : Level × List Scanned :=
  if c = '\n' then l.endLine
  else if isSeparator c then l.delimit
  else if isOperator [c] then (l.delimit.1.operate [c], l.delimit.2)
  else
    match l.spot with
    | .word _ => l.extend c
    | _ => if c = '#' then ({ l.delimit.1 with spot := .comment }, l.delimit.2) else l.extend c

/-- A character that is not quoted and quotes nothing. -/
def read (l : Level) (c : Char) : Level × List Scanned :=
  match l.spot with
  | .comment => if c = '\n' then l.endLine else (l, [])
  | .document here others line =>
    if c ≠ '\n' then ({ l with spot := .document here others (line ++ [c]) }, [])
    else if here.continues line then ({ l with spot := .document here others line.dropLast }, [])
    else if here.endedBy line then
      match others with
      | [] => ({ l with spot := .between }, [.lineEnd])
      | next :: others => ({ l with spot := .document next others [] }, [])
    else ({ l with spot := .document here others [] }, [])
  | .operator source =>
    if isOperator (source ++ [c]) then (l.operate (source ++ [c]), []) else l.readApart c
  | _ => l.readApart c

end Level

/-! ## Quotes and expansions -/

/-- What a word has opened and not closed yet. Commands in a substitution are read like all others;
`depth` counts the parentheses that are open among them. -/
inductive Frame where
  | single
  | double
  | backquoted
  | parameter (quoted : Bool)
  | arithmetic (depth : Nat)
  | command (depth : Nat) (level : Level)
  deriving DecidableEq, Repr

/-- A character is read inside a frame that is further in. -/
def Frame.note (c : Char) : Frame → Frame
  | command depth level => command depth (level.note c)
  | frame => frame

/-- What the last character may be the beginning of: an expansion behind a dollar sign, and a command
behind its parenthesis. -/
inductive Mark where
  | plain
  | dollar
  | opened
  deriving DecidableEq, Repr

end Scan

open Scan

/-- The state of a reading: of the commands of the script itself, of what their current word has
opened, the innermost first, of the last character, and whether it is a backslash that takes the
next one as it is. -/
@[ext]
structure Scan where
  ground : Level := {}
  frames : List Frame := []
  mark : Mark := .plain
  escaped : Bool := false
  deriving DecidableEq, Repr

namespace Scan

/-- Quotes mean nothing here but themselves. -/
def isText (s : Scan) : Bool :=
  match s.frames with
  | [] => s.ground.isText
  | .command _ level :: _ => level.isText
  | _ => false

def push (s : Scan) (frame : Frame) : Scan :=
  { s with frames := frame :: s.frames }

def pop (s : Scan) : Scan :=
  { s with frames := s.frames.tail }

/-- A character is part of a word, whatever it is. -/
def put (s : Scan) (c : Char) : Scan × List Scanned :=
  match s.frames with
  | [] => ({ s with ground := (s.ground.extend c).1 }, (s.ground.extend c).2)
  | .command depth level :: rest =>
    ({ s with
        ground := s.ground.note c
        frames := .command depth (level.extend c).1 :: rest.map (Frame.note c) }, [])
  | frames => ({ s with ground := s.ground.note c, frames := frames.map (Frame.note c) }, [])

/-- A character that is not quoted and quotes nothing. The parenthesis that closes a command
substitution is the first one that none inside it opened. -/
def read (s : Scan) (c : Char) : Scan × List Scanned :=
  match s.frames with
  | [] => ({ s with ground := (s.ground.read c).1 }, (s.ground.read c).2)
  | .command depth level :: rest =>
    let around : Scan :=
      { s with ground := s.ground.note c, frames := rest.map (Frame.note c) }
    let within (depth : Nat) : Scan × List Scanned :=
      (around.push (.command depth (level.read c).1), [])
    if level.isText then within depth
    else if c = '(' then within (depth + 1)
    else if c = ')' then
      match depth with
      | 0 => (around, [])
      | depth + 1 => within depth
    else within depth
  | frames => ({ s with ground := s.ground.note c, frames := frames.map (Frame.note c) }, [])

/-- What was begun by the last character is clear now. -/
def entered (s : Scan) : Scan :=
  match s.mark with
  | .opened => { s with mark := .plain }.push (.command 0 {})
  | _ => { s with mark := .plain }

/-- A character with its meaning, where none is taken from it. -/
def interpret (s : Scan) (c : Char) : Scan × List Scanned :=
  let opens (frame : Frame) : Scan × List Scanned := ((s.put c).1.push frame, (s.put c).2)
  let closes : Scan × List Scanned := ((s.put c).1.pop, (s.put c).2)
  let expands : Scan × List Scanned := ({ (s.put c).1 with mark := .dollar }, (s.put c).2)
  match s.frames with
  | .single :: _ => if c = '\'' then closes else s.put c
  | .backquoted :: _ => if c = '`' then closes else s.put c
  | .double :: _ =>
    if c = '"' then closes
    else if c = '`' then opens .backquoted
    else if c = '$' then expands
    else s.put c
  | .parameter quoted :: _ =>
    if c = '\x7d' then closes
    else if c = '"' then opens .double
    else if c = '\'' && !quoted then opens .single
    else if c = '`' then opens .backquoted
    else if c = '$' then expands
    else s.put c
  | .arithmetic depth :: _ =>
    if c = '(' then ((s.put c).1.pop.push (.arithmetic (depth + 1)), [])
    else if c = ')' then
      match depth with
      | 0 => closes
      | depth + 1 => ((s.put c).1.pop.push (.arithmetic depth), [])
    else if c = '`' then opens .backquoted
    else if c = '$' then expands
    else s.put c
  | _ =>
    if c = '\'' then opens .single
    else if c = '"' then opens .double
    else if c = '`' then opens .backquoted
    else if c = '$' then expands
    else s.read c

/-- Single quotes in a parameter mean themselves between double quotes. -/
def isQuoted (s : Scan) : Bool :=
  match s.frames with
  | .double :: _ | .parameter true :: _ | .arithmetic _ :: _ => true
  | _ => false

/-- The next character, in a place where a backslash takes the meaning from the one behind it. -/
def readOpen (s : Scan) (c : Char) : Scan × List Scanned :=
  if s.escaped then
    if c = '\n' then ({ s with escaped := false }, [])
    else
      let backslash := { s.entered with escaped := false }.put '\\'
      ((backslash.1.put c).1, backslash.2 ++ (backslash.1.put c).2)
  else if c = '\\' then ({ s with escaped := true }, [])
  else if s.mark = .dollar && c = '$' then ({ (s.put c).1 with mark := .plain }, (s.put c).2)
  else if s.mark = .dollar && c = '(' then ({ (s.put c).1 with mark := .opened }, (s.put c).2)
  else if s.mark = .dollar && c = '\x7b' then
    ({ (s.put c).1 with mark := .plain }.push (.parameter s.isQuoted), (s.put c).2)
  else if s.mark = .opened && c = '(' then
    ({ (s.put c).1 with mark := .plain }.push (.arithmetic 1), (s.put c).2)
  else s.entered.interpret c

/-- The next character. -/
def step (s : Scan) (c : Char) : Scan × List Scanned :=
  if s.isText then s.entered.read c
  else
    match s.frames with
    | .single :: _ => s.interpret c
    | _ => s.readOpen c

/-- The characters of a text: the state behind them, and the tokens that were complete by then. -/
def run (s : Scan) : List Char → Scan × List Scanned
  | [] => (s, [])
  | c :: cs =>
    let (next, now) := s.step c
    let (last, later) := next.run cs
    (last, now ++ later)

@[simp] theorem run_nil (s : Scan) : s.run [] = (s, []) := rfl

theorem run_cons (s : Scan) (c : Char) (cs : List Char) :
    s.run (c :: cs) = (((s.step c).1.run cs).1, (s.step c).2 ++ ((s.step c).1.run cs).2) := rfl

theorem run_append (s : Scan) (first rest : List Char) :
    s.run (first ++ rest) =
      (((s.run first).1.run rest).1, (s.run first).2 ++ ((s.run first).1.run rest).2) := by
  induction first generalizing s with
  | nil => simp
  | cons c cs ih => simp [run_cons, ih]

/-- The token that the end of a script completes. -/
def finish (s : Scan) : List Scanned :=
  if s.escaped then
    let backslash := s.entered.put '\\'
    backslash.2 ++ backslash.1.ground.delimit.2
  else s.ground.delimit.2

end Scan

/-- The tokens of a script. -/
def scan (script : List Char) : List Scanned :=
  (Scan.run {} script).2 ++ (Scan.run {} script).1.finish

end Worktop.Shell

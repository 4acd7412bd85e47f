import Worktop.Toml.Moment
import Worktop.Toml.Text

/-!
# The lines of a TOML document

What a document consists of before its tables are put together: assignments and headers.
-/

namespace Worktop.Toml

open Worktop.Text (Reader)

/-- A dotted key: the path to a table, and a key in it. -/
structure Key where
  path : List String
  last : String
  deriving DecidableEq, Repr

/-- The number of parts that a key cannot have, and of arrays and tables that cannot stand in each
other. -/
def nestingLimit : Nat := 80

/-- Characters of a key without quotes. -/
def isBare (c : Char) : Bool :=
  c.isAlphanum || c = '_' || c = '-'

/-- One part of a key. -/
def keyPart? : Reader String := fun cs => do
  match cs with
  | '"' :: _ | '\'' :: _ =>
    let (part, rest) ← line? cs
    some (String.ofList part, rest)
  | _ =>
    let part := cs.takeWhile isBare
    if part.isEmpty then none else some (String.ofList part, cs.drop part.length)

/-- At most `n` parts of a key, with points between them and blanks around each. -/
def keyParts? : Nat → Reader (List String)
  | 0, _ => none
  | n + 1, cs => do
    let (part, rest) ← keyPart? (skipSpace cs)
    match skipSpace rest with
    | '.' :: rest =>
      let (parts, rest) ← keyParts? n rest
      some (part :: parts, rest)
    | rest => some ([part], rest)

/-- A key with the blanks around it. -/
def key? : Reader Key := fun cs => do
  let (parts, rest) ← keyParts? (nestingLimit - 1) cs
  let last ← parts.getLast?
  some ({ path := parts.dropLast, last }, rest)

/-- Skips blanks, line ends and comments, starting in a comment or not. -/
def skipFiller? (inComment : Bool) : List Char → Option (List Char)
  | [] => some []
  | c :: rest =>
    if c = '\n' then skipFiller? false rest
    else if c = '\r' then
      if rest.head? = some '\n' then skipFiller? inComment rest else none
    else if inComment then
      if isPlain c then skipFiller? true rest else none
    else if isSpace c then skipFiller? false rest
    else if c = '#' then skipFiller? true rest
    else some (c :: rest)

mutual

/-- A value in which arrays and tables may be nested to a depth.  Each part of it takes one off the
fuel. -/
def value? : Nat → Nat → Reader Value
  | 0, _, _ => none
  | fuel + 1, depth, cs =>
    match depth, cs with
    | _, '"' :: _ | _, '\'' :: _ =>
      (text? cs).map fun (text, rest) => (.string (String.ofList text), rest)
    | _, 't' :: 'r' :: 'u' :: 'e' :: rest => some (.boolean true, rest)
    | _, 'f' :: 'a' :: 'l' :: 's' :: 'e' :: rest => some (.boolean false, rest)
    | depth + 1, '[' :: rest =>
      (items? fuel depth rest).map fun (items, rest) => (.array items, rest)
    | depth + 1, '\x7b' :: rest =>
      match skipSpace rest with
      | '\x7d' :: rest => some (.table .inline [], rest)
      | rest => (members? fuel depth [] rest).map fun (table, rest) => (.table .inline table, rest)
    | _, _ => (moment? cs).or (number? cs)

/-- The items of an array, up to its end.  A comma may follow the last. -/
def items? : Nat → Nat → Reader (List Value)
  | 0, _, _ => none
  | fuel + 1, depth, cs => do
    match ← skipFiller? false cs with
    | ']' :: rest => some ([], rest)
    | cs =>
      let (item, rest) ← value? fuel depth cs
      match ← skipFiller? false rest with
      | ',' :: rest =>
        let (items, rest) ← items? fuel depth rest
        some (item :: items, rest)
      | ']' :: rest => some ([item], rest)
      | _ => none

/-- The entries of a table between braces, up to its end, added to those before them. -/
def members? : Nat → Nat → Table → Reader Table
  | 0, _, _, _ => none
  | fuel + 1, depth, table, cs => do
    let (key, rest) ← key? cs
    match rest with
    | '=' :: rest =>
      let (value, rest) ← value? fuel depth (skipSpace rest)
      let table ← table.addAlong? key.last value key.path
      match skipSpace rest with
      | ',' :: rest => members? fuel depth table rest
      | '\x7d' :: rest => some (table, rest)
      | _ => none
    | _ => none

end

/-- A key and its value. -/
structure Assignment where
  key : Key
  value : Value
  deriving Repr

/-- The name of a table, or of one more of the tables of a name. -/
structure Header where
  key : Key
  several : Bool
  deriving DecidableEq, Repr

/-- A line that is more than a comment; the value of an assignment may make it several. -/
inductive Line where
  | assignment (a : Assignment)
  | header (h : Header)
  deriving Repr

/-- Skips a comment, if there is one, and the end of the line or of the text. -/
def endLine? (cs : List Char) : Option (List Char) :=
  let cs :=
    match skipSpace cs with
    | '#' :: rest => rest.dropWhile isPlain
    | cs => cs
  if cs.isEmpty then some [] else newLine? cs

/-- A header behind its first bracket. -/
def header? : Reader Header
  | '[' :: rest => do
    match ← key? rest with
    | (key, ']' :: ']' :: rest) => some ({ key, several := true }, rest)
    | _ => none
  | cs => do
    match ← key? cs with
    | (key, ']' :: rest) => some ({ key, several := false }, rest)
    | _ => none

/-- A key and its value. -/
def assignment? : Reader Assignment := fun cs => do
  match ← key? cs with
  | (key, '=' :: rest) =>
    let (value, rest) ← value? (rest.length + 1) (nestingLimit - 1) (skipSpace rest)
    some ({ key, value }, rest)
  | _ => none

/-- The lines of a text.  Each takes one off the fuel. -/
def lines? : Nat → List Char → Option (List Line)
  | 0, _ => none
  | fuel + 1, cs =>
    match skipSpace cs with
    | [] => some []
    | '[' :: rest => do
      let (header, rest) ← header? rest
      let lines ← lines? fuel (← endLine? rest)
      some (.header header :: lines)
    | c :: rest =>
      if c = '#' || c = '\n' || c = '\r' then do
        lines? fuel (← endLine? (c :: rest))
      else do
        let (assignment, rest) ← assignment? (c :: rest)
        let lines ← lines? fuel (← endLine? rest)
        some (.assignment assignment :: lines)

end Worktop.Toml

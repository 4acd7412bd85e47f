import Worktop.Text.Numeral
import Worktop.Text.Reader

/-!
# Texts in TOML

The four kinds of strings.  Basic ones have escapes, literal ones have none; each kind stands in
one or in three quotes, and in three quotes may run over several lines.
-/

namespace Worktop.Toml

open Worktop.Text (Numeral.isDigit Numeral.value Reader)

/-- The blanks within a line. -/
def isSpace (c : Char) : Bool :=
  c = ' ' || c = '\t'

/-- Characters that may stand in strings and comments: all but controls, of which the tab may. -/
def isPlain (c : Char) : Bool :=
  c = '\t' || (0x20 ≤ c.toNat && c.toNat ≠ 0x7f)

/-- A text without the blanks at its front. -/
def skipSpace (cs : List Char) : List Char :=
  cs.dropWhile isSpace

/-- The end of a line: a line feed, also behind a carriage return. -/
def newLine? : List Char → Option (List Char)
  | '\n' :: rest => some rest
  | '\r' :: '\n' :: rest => some rest
  | _ => none

/-- The character that a short escape stands for. -/
def shortEscape? : Char → Option Char
  | '"' => some '"'
  | '\\' => some '\\'
  | 'b' => some '\x08'
  | 'f' => some '\x0c'
  | 'n' => some '\n'
  | 'r' => some '\r'
  | 't' => some '\t'
  | _ => none

/-- The character whose number some hexadecimal digits spell, if there is one. -/
def scalar? (digits : List Char) : Option Char :=
  let n := Numeral.value 16 digits
  if digits.all (Numeral.isDigit 16) && (n < 0xD800 || (0xDFFF < n && n < 0x110000)) then
    some (Char.ofNat n)
  else none

/-- The character that an escape behind a backslash stands for, and the length of the escape. -/
def escape? : List Char → Option (Char × Nat)
  | 'u' :: a :: b :: c :: d :: _ => (scalar? [a, b, c, d]).map (·, 5)
  | 'U' :: a :: b :: c :: d :: e :: f :: g :: h :: _ =>
    (scalar? [a, b, c, d, e, f, g, h]).map (·, 9)
  | c :: _ => (shortEscape? c).map (·, 1)
  | [] => none

/-- A basic string behind its opening quote. -/
def basicTail : Reader (List Char)
  | [] => none
  | c :: rest =>
    if c = '"' then some ([], rest)
    else if c = '\\' then do
      let (ch, n) ← escape? rest
      let (cs, rest) ← basicTail (rest.drop n)
      some (ch :: cs, rest)
    else if isPlain c then do
      let (cs, rest) ← basicTail rest
      some (c :: cs, rest)
    else none
termination_by cs => cs.length

/-- A literal string behind its opening quote. -/
def literalTail : Reader (List Char)
  | [] => none
  | '\'' :: rest => some ([], rest)
  | c :: rest => do
    if !isPlain c then none
    else
      let (cs, rest) ← literalTail rest
      some (c :: cs, rest)

/-- Three quotes, which end a string of several lines; of up to two more the string ends in. -/
def closing? (quote : Char) : Reader (List Char) := fun cs =>
  let n := (cs.takeWhile (· = quote)).length
  if n < 3 then none
  else
    let own := min (n - 3) 2
    some (List.replicate own quote, cs.drop (own + 3))

/-- Where the reading of a string of several lines is: in its text, behind a backslash that must end
the line, or in the blanks behind such a line. -/
inductive Gap where
  | none
  | lineEnd
  | blanks
  deriving DecidableEq, Repr

/-- A basic string of several lines behind its opening quotes.  A backslash at the end of a line
takes away the line end and the blanks behind it. -/
def multiBasicTail (gap : Gap) : Reader (List Char)
  | [] => none
  | c :: rest =>
    if c = '\r' then
      if rest.head? = some '\n' then multiBasicTail gap rest else none
    else if gap = .lineEnd then
      if c = '\n' then multiBasicTail .blanks rest
      else if isSpace c then multiBasicTail .lineEnd rest
      else none
    else if gap = .blanks && (isSpace c || c = '\n') then multiBasicTail .blanks rest
    else
      match closing? '"' (c :: rest) with
      | some done => some done
      | none =>
        if c = '\\' then
          match escape? rest with
          | some (ch, n) =>
            (multiBasicTail .none (rest.drop n)).map fun (cs, rest) => (ch :: cs, rest)
          | none => multiBasicTail .lineEnd rest
        else if isPlain c || c = '\n' then
          (multiBasicTail .none rest).map fun (cs, rest) => (c :: cs, rest)
        else none
termination_by cs => cs.length

/-- A literal string of several lines behind its opening quotes. -/
def multiLiteralTail : Reader (List Char)
  | [] => none
  | c :: rest =>
    match closing? '\'' (c :: rest) with
    | some done => some done
    | none =>
      if c = '\r' then
        if rest.head? = some '\n' then multiLiteralTail rest else none
      else if isPlain c || c = '\n' then
        (multiLiteralTail rest).map fun (cs, rest) => (c :: cs, rest)
      else none

/-- A string in one quote. -/
def line? : Reader (List Char)
  | '"' :: rest => basicTail rest
  | '\'' :: rest => literalTail rest
  | _ => none

/-- A string.  A line end right behind three opening quotes does not count. -/
def text? : Reader (List Char)
  | '"' :: '"' :: '"' :: rest => multiBasicTail .none ((newLine? rest).getD rest)
  | '\'' :: '\'' :: '\'' :: rest => multiLiteralTail ((newLine? rest).getD rest)
  | cs => line? cs

end Worktop.Toml

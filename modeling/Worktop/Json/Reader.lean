import Worktop.Json.Value
import Worktop.Text.Numeral
import Worktop.Text.Reader

/-!
# Reading JSON

The grammar of RFC 8259.  A reader takes a piece off the front of a text and gives the rest;
`Value.ofText?` reads a text as one value.
-/

namespace Worktop.Json

open Text (Reader)

/-- The four characters that may stand between tokens. -/
def isSpace (c : Char) : Bool :=
  c = ' ' || c = '\t' || c = '\n' || c = '\r'

/-- A text without the spaces at its front. -/
def skipSpace (cs : List Char) : List Char :=
  cs.dropWhile isSpace

/-- The character that a short escape stands for. -/
def shortEscape? : Char → Option Char
  | '"' => some '"'
  | '\\' => some '\\'
  | '/' => some '/'
  | 'b' => some '\x08'
  | 'f' => some '\x0c'
  | 'n' => some '\n'
  | 'r' => some '\r'
  | 't' => some '\t'
  | _ => none

/-- The number that four hexadecimal digits spell. -/
def unit? (digits : List Char) : Option Nat :=
  if digits.all (Text.Numeral.isDigit 16) then some (Text.Numeral.value 16 digits) else none

/-- A piece of a string: a character, or a UTF-16 unit given by an escape. -/
inductive Piece where
  | char (c : Char)
  | unit (n : Nat)
  deriving DecidableEq, Repr

/-- The pieces of a string up to its closing quote. -/
def stringTail : Reader (List Piece)
  | [] => none
  | '"' :: rest => some ([], rest)
  | '\\' :: 'u' :: a :: b :: c :: d :: rest => do
    let n ← unit? [a, b, c, d]
    let (pieces, rest) ← stringTail rest
    some (.unit n :: pieces, rest)
  | '\\' :: e :: rest => do
    let c ← shortEscape? e
    let (pieces, rest) ← stringTail rest
    some (.char c :: pieces, rest)
  | c :: rest => do
    if c.toNat < 0x20 || c = '\\' then none
    else
      let (pieces, rest) ← stringTail rest
      some (.char c :: pieces, rest)

/-- The text that pieces spell, unless a surrogate stands alone. -/
def spell? : List Piece → Option (List Char)
  | [] => some []
  | .char c :: rest => (spell? rest).map (c :: ·)
  | .unit n :: rest =>
    if n < 0xD800 ∨ 0xE000 ≤ n then (spell? rest).map (Char.ofNat n :: ·)
    else
      match rest with
      | .unit low :: rest =>
        if n < 0xDC00 ∧ 0xDC00 ≤ low ∧ low < 0xE000 then
          (spell? rest).map (Char.ofNat (0x10000 + (n - 0xD800) * 0x400 + (low - 0xDC00)) :: ·)
        else none
      | _ => none

/-- A string after its opening quote. -/
def string : Reader (Option String) := fun cs => do
  let (pieces, rest) ← stringTail cs
  some ((spell? pieces).map String.ofList, rest)

/-- Digits at the front of a text; there must be one. -/
def digits : Reader (List Char) := fun cs =>
  let ds := cs.takeWhile (Text.Numeral.isDigit 10)
  if ds.isEmpty then none else some (ds, cs.drop ds.length)

/-- The digits before the point: no zero stands in front of another digit. -/
def integer : Reader (List Char)
  | '0' :: rest => some (['0'], rest)
  | cs => digits cs

/-- A point and digits, if a point comes next. -/
def fraction : Reader (List Char)
  | '.' :: rest => do
    let (ds, rest) ← digits rest
    some ('.' :: ds, rest)
  | cs => some ([], cs)

/-- The mark of an exponent, its sign and its digits, if the mark comes next. -/
def exponent : Reader (List Char)
  | [] => some ([], [])
  | c :: rest => do
    if c = 'e' || c = 'E' then
      let (sign, rest) :=
        match rest with
        | '+' :: rest => (['+'], rest)
        | '-' :: rest => (['-'], rest)
        | _ => ([], rest)
      let (ds, rest) ← digits rest
      some (c :: sign ++ ds, rest)
    else some ([], c :: rest)

/-- A number, as written. -/
def number : Reader (List Char) := fun cs => do
  let (sign, cs) :=
    match cs with
    | '-' :: rest => (['-'], rest)
    | _ => ([], cs)
  let (whole, cs) ← integer cs
  let (decimals, cs) ← fraction cs
  let (power, cs) ← exponent cs
  some (sign ++ whole ++ decimals ++ power, cs)

mutual

/-- A value; each nesting takes one off the fuel, and so does each item. -/
def value : Nat → Reader Value
  | 0, _ => none
  | fuel + 1, cs =>
    match skipSpace cs with
    | 'n' :: 'u' :: 'l' :: 'l' :: rest => some (.null, rest)
    | 't' :: 'r' :: 'u' :: 'e' :: rest => some (.bool true, rest)
    | 'f' :: 'a' :: 'l' :: 's' :: 'e' :: rest => some (.bool false, rest)
    | '"' :: rest => (string rest).map fun (s, rest) => (.string s, rest)
    | '[' :: rest =>
      match skipSpace rest with
      | ']' :: rest => some (.array [], rest)
      | rest => (items fuel rest).map fun (vs, rest) => (.array vs, rest)
    | '\x7b' :: rest =>
      match skipSpace rest with
      | '\x7d' :: rest => some (.object [], rest)
      | rest => (members fuel rest).map fun (ms, rest) => (.object ms, rest)
    | rest => (number rest).map fun (n, rest) => (.number n, rest)

/-- The items of an array, up to its end. -/
def items : Nat → Reader (List Value)
  | 0, _ => none
  | fuel + 1, cs => do
    let (v, rest) ← value fuel cs
    match skipSpace rest with
    | ',' :: rest =>
      let (vs, rest) ← items fuel rest
      some (v :: vs, rest)
    | ']' :: rest => some ([v], rest)
    | _ => none

/-- The members of an object, up to its end. -/
def members : Nat → Reader (List (Option String × Value))
  | 0, _ => none
  | fuel + 1, cs => do
    match skipSpace cs with
    | '"' :: rest =>
      let (key, rest) ← string rest
      match skipSpace rest with
      | ':' :: rest =>
        let (v, rest) ← value fuel rest
        match skipSpace rest with
        | ',' :: rest =>
          let (ms, rest) ← members fuel rest
          some ((key, v) :: ms, rest)
        | '\x7d' :: rest => some ([(key, v)], rest)
        | _ => none
      | _ => none
    | _ => none

end

/-- The value that a text is.  No value takes more fuel than its text has characters. -/
def Value.ofText? (s : String) : Option Value := do
  let cs := s.toList
  let (v, rest) ← value (cs.length + 1) cs
  if (skipSpace rest).isEmpty then some v else none

end Worktop.Json

import Worktop.Text.Numeral
import Worktop.Text.Reader
import Worktop.Toml.Value

/-!
# Numbers in TOML

Whole numbers of 64 bits in four bases, and floating-point numbers, which are kept as written.
-/

namespace Worktop.Toml

open Worktop.Text (Numeral.isDigit Numeral.value Reader)

/-- What stands in front of the rest of a text. -/
def written (cs rest : List Char) : List Char :=
  cs.take (cs.length - rest.length)

/-- Digits behind another one; between two of them an underscore may stand. -/
def moreDigits (base : Nat) : Reader (List Char)
  | '_' :: c :: rest => do
    if Numeral.isDigit base c then
      let (ds, rest) ← moreDigits base rest
      some (c :: ds, rest)
    else none
  | c :: rest => do
    if Numeral.isDigit base c then
      let (ds, rest) ← moreDigits base rest
      some (c :: ds, rest)
    else some ([], c :: rest)
  | [] => some ([], [])

/-- One digit or more. -/
def digits? (base : Nat) : Reader (List Char)
  | c :: rest => do
    if Numeral.isDigit base c then
      let (ds, rest) ← moreDigits base rest
      some (c :: ds, rest)
    else none
  | [] => none

/-- A sign, if one stands there: whether it is a minus. -/
def sign : List Char → Bool × List Char
  | '+' :: rest => (false, rest)
  | '-' :: rest => (true, rest)
  | cs => (false, cs)

/-- A decimal numeral; no zero stands in front of another digit. -/
def whole? : Reader (List Char)
  | '0' :: rest => some (['0'], rest)
  | cs => digits? 10 cs

/-- An exponent behind its letter. -/
def power? : Reader (Bool × List Char) := fun cs => do
  let (negative, cs) := sign cs
  let (ds, rest) ← digits? 10 cs
  some ((negative, ds), rest)

/-- Whether a letter starts an exponent. -/
def isPowerMark (cs : List Char) : Bool :=
  cs.head? = some 'e' || cs.head? = some 'E'

/-- The number `ds · 10 ^ e` is so large that no finite double is nearest to it: it is at least as
large as the middle between the largest double and the next power of two. -/
def isHuge (ds : List Char) (e : Int) : Bool :=
  let ds := ds.dropWhile (· = '0')
  let size := (ds.length : Int) + e
  if ds.isEmpty || size ≤ 300 then false
  else if 400 ≤ size then true
  else
    let limit := Nat.pow 2 1024 - Nat.pow 2 970
    let n := Numeral.value 10 ds
    if 0 ≤ e then limit ≤ n * Nat.pow 10 e.toNat else limit * Nat.pow 10 (-e).toNat ≤ n

/-- A positive number must not be too large for a double. -/
def isFinite (negative : Bool) (whole fraction : List Char) (power : Option (Bool × List Char)) :
    Bool :=
  let exponent : Int :=
    match power with
    | some (true, ds) => -(Numeral.value 10 ds : Int)
    | some (false, ds) => Numeral.value 10 ds
    | none => 0
  negative || !isHuge (whole ++ fraction) (exponent - fraction.length)

/-- A floating-point number in digits: what makes it one is a fraction or an exponent. -/
def float? : Reader Value := fun cs => do
  let (negative, start) := sign cs
  let (whole, rest) ← whole? start
  let (fraction, rest) ←
    match rest with
    | '.' :: rest => digits? 10 rest
    | _ => if isPowerMark rest then some ([], rest) else none
  let (power, rest) ←
    if isPowerMark rest then (power? (rest.drop 1)).map fun (p, rest) => (some p, rest)
    else some (none, rest)
  if isFinite negative whole fraction power then
    some (.float (String.ofList (written cs rest)), rest)
  else none

/-- Infinity and what is not a number. -/
def special? : Reader Value := fun cs => do
  match (sign cs).2 with
  | 'i' :: 'n' :: 'f' :: rest => some (.float (String.ofList (written cs rest)), rest)
  | 'n' :: 'a' :: 'n' :: rest => some (.float (String.ofList (written cs rest)), rest)
  | _ => none

/-- A number as a value, if it fits into 64 bits. -/
def integerOf? (negative : Bool) (n : Nat) : Option Value :=
  if negative then
    if 2 * n ≤ Worktop.Text.Numeral.wordLimit then some (.integer (-(n : Int))) else none
  else
    if 2 * n < Worktop.Text.Numeral.wordLimit then some (.integer n) else none

/-- A whole number: decimal with or without a sign, or in another base without one. -/
def integer? : Reader Value
  | '0' :: 'x' :: rest => inBase 16 rest
  | '0' :: 'o' :: rest => inBase 8 rest
  | '0' :: 'b' :: rest => inBase 2 rest
  | cs => do
    let (negative, start) := sign cs
    let (ds, rest) ← whole? start
    some (← integerOf? negative (Numeral.value 10 ds), rest)
where
  /-- A numeral in a base. -/
  inBase (base : Nat) (cs : List Char) : Option (Value × List Char) := do
    let (ds, rest) ← digits? base cs
    some (← integerOf? false (Numeral.value base ds), rest)

/-- A number. -/
def number? : Reader Value := fun cs =>
  ((float? cs).or (special? cs)).or (integer? cs)

end Worktop.Toml

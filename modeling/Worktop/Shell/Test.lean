import Worktop.FileSystem.Edit
import Worktop.Shell.Arithmetic

/-!
# Tests of the shell language

The conditions of `test`, which is also written as a bracket.
-/

namespace Worktop.Shell.Test

/-- Why a condition has no answer. -/
inductive Error where
  | illegalNumber (text : Bytes)
  | unexpectedOperator (text : Bytes)
  | argumentExpected
  deriving DecidableEq, Repr

/-- The text of an error. -/
def Error.message : Error → String
  | illegalNumber text => s!"Illegal number: {Bytes.text text}"
  | unexpectedOperator text => s!"{Bytes.text text}: unexpected operator"
  | argumentExpected => "argument expected"

/-- The number that an argument is. -/
def number (cs : Bytes) : Except Error Int :=
  let trimmed := ((cs.dropWhile (· = ' ')).reverse.dropWhile (· = ' ')).reverse
  let digits (ds : Bytes) : Option Int := (Text.Numeral.decimal? ds).map fun n => (n : Int)
  let value :=
    match trimmed with
    | '-' :: ds => (digits ds).map fun n => -n
    | '+' :: ds => digits ds
    | ds => digits ds
  let limit : Int := Text.Numeral.wordLimit / 2
  match value.filter fun n => -limit ≤ n && n < limit with
  | some n => .ok n
  | none => .error (.illegalNumber cs)

/-- What a test of one operand asks. -/
def unary? (files : FileSystem) (op : Bytes) (arg : Bytes) : Option Bool :=
  let path := Bytes.text arg
  let size := ((files.read path).toOption.map List.length).getD 0
  match String.ofList op with
  | "-n" => some !arg.isEmpty
  | "-z" => some arg.isEmpty
  | "-e" | "-r" | "-w" => some (files.pathExists path)
  | "-d" => some (files.isDirectory path)
  | "-x" => some (files.isDirectory path)
  | "-f" => some (files.pathExists path && !files.isDirectory path)
  | "-s" => some (files.isDirectory path || 0 < size)
  | "-L" | "-h" | "-p" | "-S" | "-b" | "-c" | "-t" | "-u" | "-g" | "-k" => some false
  | _ => none

/-- What a test of two operands asks. -/
def binary? (op : Bytes) (l r : Bytes) : Option (Except Error Bool) :=
  let compare (holds : Int → Int → Bool) : Option (Except Error Bool) :=
    some (do .ok (holds (← number l) (← number r)))
  match String.ofList op with
  | "=" => some (.ok (l == r))
  | "!=" => some (.ok (l != r))
  | "<" => some (.ok (String.ofList l < String.ofList r))
  | ">" => some (.ok (String.ofList r < String.ofList l))
  | "-eq" => compare (· == ·)
  | "-ne" => compare (· != ·)
  | "-lt" => compare (· < ·)
  | "-le" => compare (· ≤ ·)
  | "-gt" => compare fun a b => decide (b < a)
  | "-ge" => compare fun a b => decide (b ≤ a)
  | _ => none

/-- An answer, and the arguments that are left. -/
abbrev Parse := List Bytes → Except Error (Bool × List Bytes)

mutual

/-- Conditions with `-o` between them. -/
def disjunction (files : FileSystem) : Nat → Parse
  | 0, _ => .error .argumentExpected
  | fuel + 1, args => do
    let (l, rest) ← conjunction files fuel args
    match rest with
    | ['-', 'o'] :: rest =>
      let (r, rest) ← disjunction files fuel rest
      .ok (l || r, rest)
    | _ => .ok (l, rest)

/-- Conditions with `-a` between them. -/
def conjunction (files : FileSystem) : Nat → Parse
  | 0, _ => .error .argumentExpected
  | fuel + 1, args => do
    let (l, rest) ← negation files fuel args
    match rest with
    | ['-', 'a'] :: rest =>
      let (r, rest) ← conjunction files fuel rest
      .ok (l && r, rest)
    | _ => .ok (l, rest)

/-- A condition that may be negated. -/
def negation (files : FileSystem) : Nat → Parse
  | 0, _ => .error .argumentExpected
  | fuel + 1, args =>
    match args with
    | ['!'] :: rest =>
      if rest.isEmpty then .ok (true, [])
      else (negation files fuel rest).map fun (b, rest) => (!b, rest)
    | _ => primary files fuel args

/-- A condition without operators around it. -/
def primary (files : FileSystem) : Nat → Parse
  | 0, _ => .error .argumentExpected
  | fuel + 1, args =>
    match args with
    | [] => .error .argumentExpected
    | [one] => .ok (!one.isEmpty, [])
    | l :: op :: more =>
      let twoSided :=
        match more with
        | r :: rest => (binary? op l r).map fun b => b.map (·, rest)
        | [] => none
      match twoSided with
      | some answer => answer
      | none =>
        if l = ['('] then do
          match ← disjunction files fuel (op :: more) with
          | (b, [')'] :: rest) => .ok (b, rest)
          | _ => .error .argumentExpected
        else
          match unary? files l op with
          | some b => .ok (b, more)
          | none => .ok (!l.isEmpty, op :: more)

end

/-- The answer to the condition that some arguments make.  If some are left, the last one that is not
is to blame. -/
def holds (files : FileSystem) (args : List Bytes) : Except Error Bool :=
  match args with
  | [] => .ok false
  | args => do
    match ← disjunction files (4 * args.length + 4) args with
    | (b, []) => .ok b
    | (_, rest) => .error (.unexpectedOperator (args.getD (args.length - rest.length - 1) []))

end Worktop.Shell.Test

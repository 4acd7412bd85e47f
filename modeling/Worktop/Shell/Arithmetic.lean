import Worktop.Shell.Word
import Worktop.Text.Numeral

/-!
# Arithmetic of the shell language

Expressions on whole numbers of 64 bits, with the operators of C and its precedence.
-/

namespace Worktop.Shell

/-- The operators between two values. -/
inductive ArithOperator where
  | or | xor | and | equal | unequal | less | atMost | greater | atLeast | shiftLeft | shiftRight
  | add | subtract | multiply | divide | remainder
  deriving DecidableEq, Repr

/-- An expression.  An assignment may combine the old value with the new. -/
inductive Arith where
  | number (n : Int)
  | variable (name : Bytes)
  | negate (e : Arith)
  | complement (e : Arith)
  | not (e : Arith)
  | binary (op : ArithOperator) (l r : Arith)
  | both (l r : Arith)
  | either (l r : Arith)
  | choice (c y n : Arith)
  | assign (name : Bytes) (op : Option ArithOperator) (e : Arith)
  deriving Repr

/-- Why an expression has no value. -/
inductive ArithError where
  | malformed (expected : String)
  | divisionByZero
  | illegalNumber (text : Bytes)
  deriving DecidableEq, Repr

namespace Arith

/-- A number within 64 bits, as two's complement. -/
def wrap (n : Int) : Int :=
  Int.bmod n Text.Numeral.wordLimit

/-- The operators by how tightly they bind, loosest first. -/
def levels : List (List (String × ArithOperator)) :=
  [[("|", .or)], [("^", .xor)], [("&", .and)], [("==", .equal), ("!=", .unequal)],
    [("<=", .atMost), (">=", .atLeast), ("<", .less), (">", .greater)],
    [("<<", .shiftLeft), (">>", .shiftRight)], [("+", .add), ("-", .subtract)],
    [("*", .multiply), ("/", .divide), ("%", .remainder)]]

/-- A token: a number, a name or an operator. -/
inductive Token where
  | number (n : Int)
  | name (name : Bytes)
  | operator (text : String)
  deriving DecidableEq, Repr

/-- The operators and brackets, each before those that it starts with. -/
def operators : List String :=
  ["<<=", ">>=", "&&", "||", "==", "!=", "<=", ">=", "<<", ">>", "+=", "-=", "*=", "/=", "%=", "&=",
    "|=", "^=", "+", "-", "*", "/", "%", "<", ">", "!", "~", "&", "|", "^", "?", ":", "=", "(", ")"]

/-- The number that a numeral means: octal behind a zero, hexadecimal behind `0x`.  One that is too
large means the largest number. -/
def numeral? (cs : Bytes) : Option Int :=
  let value (base : Nat) (ds : Bytes) : Option Int :=
    if !ds.isEmpty && ds.all (Text.Numeral.isDigit base) then
      some (min (Text.Numeral.value base ds) (Text.Numeral.wordLimit / 2 - 1) : Nat)
    else none
  match cs with
  | '0' :: 'x' :: ds | '0' :: 'X' :: ds => value 16 ds
  | '0' :: d :: ds => value 8 (d :: ds)
  | ds => value 10 ds

/-- The tokens of an expression.  Each takes one off the fuel. -/
def tokens? : Nat → Bytes → Option (List Token)
  | 0, _ => none
  | _ + 1, [] => some []
  | fuel + 1, c :: rest =>
    if [' ', '\t', '\n'].contains c then tokens? fuel rest
    else if c.isAlphanum || c = '_' then do
      let word := (c :: rest).takeWhile isNameChar
      let token ← if c.isDigit then (numeral? word).map Token.number else some (.name word)
      (tokens? fuel ((c :: rest).drop word.length)).map (token :: ·)
    else do
      let op ← operators.find? fun op => op.toList.isPrefixOf (c :: rest)
      (tokens? fuel ((c :: rest).drop op.length)).map (.operator op :: ·)

/-- The operator that an assignment combines with. -/
def combined? (text : String) : Option (Option ArithOperator) :=
  if text = "=" then some none
  else if text ∈ ["==", "!=", "<=", ">="] || text.toList.getLast? ≠ some '=' then none
  else (levels.flatten.lookup (String.ofList text.toList.dropLast)).map some

/-- Takes an expression off the front of some tokens. -/
abbrev Parse := List Token → Except ArithError (Arith × List Token)

mutual

/-- An expression, which may be an assignment. -/
def expression : Nat → Parse
  | 0, _ => .error (.malformed "expecting primary")
  | fuel + 1, ts =>
    match ts with
    | .name name :: .operator op :: rest =>
      match combined? op with
      | some op => (expression fuel rest).map fun (e, rest) => (.assign name op e, rest)
      | none => conditional fuel ts
    | _ => conditional fuel ts

/-- An expression that may be a choice. -/
def conditional : Nat → Parse
  | 0, _ => .error (.malformed "expecting primary")
  | fuel + 1, ts => do
    let (c, rest) ← disjunction fuel ts
    match rest with
    | .operator "?" :: rest =>
      let (y, rest) ← expression fuel rest
      match rest with
      | .operator ":" :: rest =>
        let (n, rest) ← conditional fuel rest
        .ok (.choice c y n, rest)
      | _ => .error (.malformed "expecting ':'")
    | _ => .ok (c, rest)

/-- Conjunctions with `||` between them. -/
def disjunction : Nat → Parse
  | 0, _ => .error (.malformed "expecting primary")
  | fuel + 1, ts => do
    let (l, rest) ← conjunction fuel ts
    match rest with
    | .operator "||" :: rest =>
      let (r, rest) ← disjunction fuel rest
      .ok (.either l r, rest)
    | _ => .ok (l, rest)

/-- Operands with `&&` between them. -/
def conjunction : Nat → Parse
  | 0, _ => .error (.malformed "expecting primary")
  | fuel + 1, ts => do
    let (l, rest) ← level fuel levels ts
    match rest with
    | .operator "&&" :: rest =>
      let (r, rest) ← conjunction fuel rest
      .ok (.both l r, rest)
    | _ => .ok (l, rest)

/-- Operands with the operators of some levels between them. -/
def level : Nat → List (List (String × ArithOperator)) → Parse
  | 0, _, _ => .error (.malformed "expecting primary")
  | fuel + 1, [], ts => unary fuel ts
  | fuel + 1, ops :: tighter, ts => do
    let (l, rest) ← level fuel tighter ts
    levelTail fuel ops tighter l rest

/-- The rest of a row of operands of one level, which are taken from the left. -/
def levelTail : Nat → List (String × ArithOperator) → List (List (String × ArithOperator)) →
    Arith → Parse
  | 0, _, _, _, _ => .error (.malformed "expecting primary")
  | fuel + 1, ops, tighter, l, ts => do
    match ts with
    | .operator text :: rest =>
      match ops.lookup text with
      | some op =>
        let (r, rest) ← level fuel tighter rest
        levelTail fuel ops tighter (.binary op l r) rest
      | none => .ok (l, ts)
    | _ => .ok (l, ts)

/-- An operand with the signs in front of it. -/
def unary : Nat → Parse
  | 0, _ => .error (.malformed "expecting primary")
  | fuel + 1, ts =>
    match ts with
    | .operator "-" :: rest => (unary fuel rest).map fun (e, rest) => (.negate e, rest)
    | .operator "+" :: rest => unary fuel rest
    | .operator "~" :: rest => (unary fuel rest).map fun (e, rest) => (.complement e, rest)
    | .operator "!" :: rest => (unary fuel rest).map fun (e, rest) => (.not e, rest)
    | .number n :: rest => .ok (.number n, rest)
    | .name name :: rest => .ok (.variable name, rest)
    | .operator "(" :: rest => do
      let (e, rest) ← expression fuel rest
      match rest with
      | .operator ")" :: rest => .ok (e, rest)
      | _ => .error (.malformed "expecting ')'")
    | _ => .error (.malformed "expecting primary")

end

/-- Reads an expression. -/
def ofText (cs : Bytes) : Except ArithError Arith := do
  match tokens? (cs.length + 1) cs with
  | none => .error (.malformed "expecting EOF")
  | some ts =>
    match ← expression (16 * ts.length + 16) ts with
    | (e, []) => .ok e
    | _ => .error (.malformed "expecting EOF")

/-- Truth as a number. -/
def truth (b : Bool) : Int :=
  if b then 1 else 0

/-- The bits of a number as a natural one. -/
def bits (n : Int) : Nat :=
  (n % (Text.Numeral.wordLimit : Int)).toNat

/-- The value of an operation. -/
def apply (op : ArithOperator) (l r : Int) : Except ArithError Int :=
  match op with
  | .or => .ok (wrap ((bits l ||| bits r : Nat) : Int))
  | .xor => .ok (wrap ((bits l ^^^ bits r : Nat) : Int))
  | .and => .ok (wrap ((bits l &&& bits r : Nat) : Int))
  | .equal => .ok (truth (l == r))
  | .unequal => .ok (truth (l != r))
  | .less => .ok (truth (l < r))
  | .atMost => .ok (truth (l ≤ r))
  | .greater => .ok (truth (r < l))
  | .atLeast => .ok (truth (r ≤ l))
  | .shiftLeft => .ok (wrap (l <<< (bits r % 64)))
  | .shiftRight => .ok (l.shiftRight (bits r % 64))
  | .add => .ok (wrap (l + r))
  | .subtract => .ok (wrap (l - r))
  | .multiply => .ok (wrap (l * r))
  | .divide => if r = 0 then .error .divisionByZero else .ok (wrap (l.tdiv r))
  | .remainder => if r = 0 then .error .divisionByZero else .ok (wrap (l.tmod r))

/-- The number that the value of a variable is; one that is not set is zero. -/
def valueOf (value : Option Bytes) : Except ArithError Int :=
  match value with
  | none => .ok 0
  | some cs =>
    let strip (cs : Bytes) : Bytes := cs.dropWhile fun c => [' ', '\t', '\n'].contains c
    let cs := (strip (strip cs).reverse).reverse
    let number? :=
      match cs with
      | '-' :: ds => (numeral? ds).map fun n => wrap (-n)
      | '+' :: ds => numeral? ds
      | [] => some 0
      | ds => numeral? ds
    match number? with
    | some n => .ok n
    | none => .error (.illegalNumber cs)

/-- What the evaluation of expressions needs: the variables assigned by them so far. -/
abbrev Eval := StateT (List (Bytes × Int)) (Except ArithError)

/-- The number that a variable holds. -/
def read (lookup : Bytes → Option Bytes) (name : Bytes) : Eval Int := do
  match (← get).lookup name with
  | some n => pure n
  | none => StateT.lift (valueOf (lookup name))

/-- The value of an expression.  Variables that it assigns are in the state, and hide those of
`lookup`. -/
def eval (lookup : Bytes → Option Bytes) : Arith → Eval Int
  | .number n => pure n
  | .variable name => read lookup name
  | .negate e => do pure (wrap (-(← eval lookup e)))
  | .complement e => do pure (wrap (-(← eval lookup e) - 1))
  | .not e => do pure (truth ((← eval lookup e) == 0))
  | .binary op l r => do
    let l ← eval lookup l
    let r ← eval lookup r
    StateT.lift (apply op l r)
  | .both l r => do
    if (← eval lookup l) = 0 then pure 0
    else pure (truth ((← eval lookup r) != 0))
  | .either l r => do
    if (← eval lookup l) ≠ 0 then pure 1
    else pure (truth ((← eval lookup r) != 0))
  | .choice c y n => do
    if (← eval lookup c) ≠ 0 then eval lookup y else eval lookup n
  | .assign name op e => do
    let new ← eval lookup e
    let value ←
      match op with
      | none => pure new
      | some op => do
        let old ← read lookup name
        StateT.lift (apply op old new)
    modify fun vs => (name, value) :: vs
    pure value

end Arith

end Worktop.Shell

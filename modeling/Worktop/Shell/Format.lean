import Worktop.Shell.Arithmetic

/-!
# Printing in the shell language

What `echo` and `printf` make of their arguments.
-/

namespace Worktop.Shell.Format

/-- What is printed, and what is complained about.  A `halted` text lets nothing follow it. -/
structure Printed where
  text : Bytes := []
  complaints : List String := []
  halted : Bool := false
  deriving DecidableEq, Repr

/-- An octal digit. -/
def isOctal (c : Char) : Bool :=
  Text.Numeral.isDigit 8 c

/-- The byte of a number. -/
def byte (n : Nat) : Char :=
  Char.ofNat (n % 256)

/-- What the escape behind a backslash stands for, and the text after it. -/
def escape (cs : Bytes) : Bytes × Bytes :=
  let octal := (cs.take 3).takeWhile isOctal
  if !octal.isEmpty then ([byte (Text.Numeral.value 8 octal)], cs.drop octal.length)
  else
    match cs with
    | 'a' :: rest => (['\x07'], rest)
    | 'b' :: rest => (['\x08'], rest)
    | 'e' :: rest => (['\x1b'], rest)
    | 'f' :: rest => (['\x0c'], rest)
    | 'n' :: rest => (['\n'], rest)
    | 'r' :: rest => (['\r'], rest)
    | 't' :: rest => (['\t'], rest)
    | 'v' :: rest => (['\x0b'], rest)
    | '\\' :: rest => (['\\'], rest)
    | cs => (['\\'], cs)

/-- A text with its escapes replaced.  An octal number may have one more zero in front, and `\c`
ends everything.  Each character takes one off the fuel. -/
def unescape : Nat → Bytes → Printed
  | 0, _ => {}
  | _ + 1, [] => {}
  | fuel + 1, c :: cs =>
    if c ≠ '\\' then
      let p := unescape fuel cs
      { p with text := c :: p.text }
    else if cs.head? = some 'c' then { halted := true }
    else
      let cs :=
        match cs with
        | '0' :: d :: rest => if isOctal d then d :: rest else cs
        | _ => cs
      let (text, cs) := escape cs
      let p := unescape fuel cs
      { p with text := text ++ p.text }

/-- What `echo` prints. -/
def echo (args : List Bytes) : Bytes :=
  let (newLine, args) :=
    match args with
    | ['-', 'n'] :: rest => (false, rest)
    | _ => (true, args)
  let line := [' '].intercalate args
  let p := unescape (line.length + 1) line
  if p.halted || !newLine then p.text else p.text ++ ['\n']

/-- The directive of a format between its per cent sign and its letter. -/
structure Directive where
  flags : List Char := []
  width : Nat := 0
  precision : Option Nat := none
  deriving DecidableEq, Repr

/-- Fills a text up to the width of a directive. -/
def pad (d : Directive) (cs : Bytes) : Bytes :=
  let fill := List.replicate (d.width - cs.length) ' '
  if d.flags.contains '-' then cs ++ fill else fill ++ cs

/-- A number with its sign, filled up with zeros where the directive says so. -/
def padNumber (d : Directive) (negative : Bool) (lead digits : Bytes) : Bytes :=
  let digits := List.replicate (d.precision.getD 0 - digits.length) '0' ++ digits
  let sign :=
    if negative then ['-']
    else if d.flags.contains '+' then ['+']
    else if d.flags.contains ' ' then [' ']
    else []
  let head := sign ++ lead
  if d.flags.contains '0' && !d.flags.contains '-' && d.precision.isNone then
    head ++ List.replicate (d.width - head.length - digits.length) '0' ++ digits
  else pad d (head ++ digits)

/-- The number that an argument is: its value, and what is wrong with it. -/
def numberOf (arg : Bytes) : Int × List String :=
  match arg with
  | '\'' :: c :: _ | '"' :: c :: _ => (c.toNat, [])
  | _ =>
    let cs := arg.dropWhile fun c => c = ' ' || c = '\t' || c = '\n'
    let (negative, cs) :=
      match cs with
      | '-' :: rest => (true, rest)
      | '+' :: rest => (false, rest)
      | _ => (false, cs)
    let read (base : Nat) (cs : Bytes) : Nat × Bool × Bool :=
      let ds := cs.takeWhile (Text.Numeral.isDigit base)
      (Text.Numeral.value base ds, ds.isEmpty, ds.length = cs.length)
    let (n, none?, all?) :=
      match cs with
      | '0' :: 'x' :: ds | '0' :: 'X' :: ds => read 16 ds
      | '0' :: d :: ds => read 8 ('0' :: d :: ds)
      | ds => read 10 ds
    let value : Int := if negative then -(n : Int) else n
    let shown := Bytes.text arg
    if none? then (value, [s!"{shown}: expected numeric value"])
    else if !all? then (value, [s!"{shown}: not completely converted"])
    else (value, [])

/-- The digits of a number in a base. -/
def digits (base : Nat) (upper : Bool) (n : Nat) : Bytes :=
  let ds := Nat.toDigits base n
  if upper then ds.map Char.toUpper else ds

/-- What a directive with its letter prints of an argument; `none` if there is no such letter. -/
def directive? (d : Directive) (letter : Char) (arg : Option Bytes) : Option Printed :=
  let text := arg.getD []
  let number := (arg.map numberOf).getD (0, [])
  let unsigned := (number.1 % (Text.Numeral.wordLimit : Int)).toNat
  let signed (n : Int) : Printed :=
    { text := padNumber d (n < 0) [] (digits 10 false n.natAbs), complaints := number.2 }
  let inBase (base : Nat) (lead : Bytes) (upper : Bool) : Printed :=
    let lead := if d.flags.contains '#' && unsigned ≠ 0 then lead else []
    { text := padNumber { d with flags := d.flags.filter fun c => c ≠ '+' && c ≠ ' ' } false lead
        (digits base upper unsigned),
      complaints := number.2 }
  let cut (cs : Bytes) : Bytes := (d.precision.map cs.take).getD cs
  match letter with
  | 's' => some { text := pad d (cut text) }
  | 'b' =>
    let p := unescape (text.length + 1) text
    some { p with text := pad d (cut p.text) }
  | 'c' => some { text := pad d (text.take 1) }
  | 'd' | 'i' => some (signed number.1)
  | 'u' => some (inBase 10 [] false)
  | 'o' => some (inBase 8 ['0'] false)
  | 'x' => some (inBase 16 ['0', 'x'] false)
  | 'X' => some (inBase 16 ['0', 'X'] true)
  | _ => none

/-- A number in a directive, given in digits or, by a star, as an argument. -/
def count (cs : Bytes) (args : List Bytes) : Option Nat × Bytes × List Bytes :=
  match cs with
  | '*' :: rest => (some ((args.head?.map fun a => (numberOf a).1.toNat).getD 0), rest, args.tail)
  | _ =>
    let ds := cs.takeWhile Char.isDigit
    (if ds.isEmpty then none else some (Text.Numeral.value 10 ds), cs.drop ds.length, args)

/-- One pass through a format: what it prints, and the arguments that are left.  Each character
takes one off the fuel. -/
def pass : Nat → Bytes → List Bytes → Printed × List Bytes
  | 0, _, args => ({}, args)
  | _ + 1, [], args => ({}, args)
  | fuel + 1, c :: cs, args =>
    let andThen (first : Printed) (cs : Bytes) (args : List Bytes) : Printed × List Bytes :=
      if first.halted then (first, [])
      else
        let (rest, args) := pass fuel cs args
        ({ text := first.text ++ rest.text, complaints := first.complaints ++ rest.complaints,
           halted := rest.halted }, args)
    if c = '\\' then
      let (text, cs) := escape cs
      andThen { text } cs args
    else if c ≠ '%' then andThen { text := [c] } cs args
    else if cs.head? = some '%' then andThen { text := ['%'] } cs.tail args
    else
      let flags := cs.takeWhile fun c => ['#', '-', '+', ' ', '0'].contains c
      let (width, cs, args) := count (cs.drop flags.length) args
      let (precision, cs, args) :=
        match cs with
        | '.' :: rest =>
          let (n, cs, args) := count rest args
          (some (n.getD 0), cs, args)
        | _ => (none, cs, args)
      match cs with
      | [] => ({ complaints := ["missing format character"], halted := true }, [])
      | letter :: cs =>
        match directive? { flags, width := width.getD 0, precision } letter args.head? with
        | some p => andThen p cs args.tail
        | none => ({ complaints := [s!"%{letter}: invalid directive"], halted := true }, [])

/-- What `printf` prints: the format is gone through until no argument is left, once at least.  Each
pass takes one off the fuel. -/
def printf : Nat → Bytes → List Bytes → Printed
  | 0, _, _ => {}
  | fuel + 1, format, args =>
    let (p, rest) := pass (format.length + 1) format args
    if p.halted || rest.isEmpty || args.length ≤ rest.length then p
    else
      let q := printf fuel format rest
      { text := p.text ++ q.text, complaints := p.complaints ++ q.complaints, halted := q.halted }

end Worktop.Shell.Format

import Worktop.Text.Lines

/-!
# Quoting for a POSIX shell

A quoted text is read by a shell as one word, and that word is the text.
-/

namespace Worktop.Shell

/-- Characters that mean themselves to a shell wherever they stand in a word. -/
def isBareChar (c : Char) : Bool :=
  c.isAlphanum || ['@', '%', '_', '+', '=', ':', ',', '.', '/', '-'].contains c

namespace Chars

/-- A text between single quotes.  A single quote in it is written outside them, behind a
backslash. -/
def singleQuote (cs : List Char) : List Char :=
  '\'' :: cs.flatMap (fun c => if c = '\'' then ['\'', '\\', '\'', '\''] else [c]) ++ ['\'']

/-- A text in quotes, unless it is a word without them. -/
def quote (cs : List Char) : List Char :=
  if cs.isEmpty then ['\'', '\'']
  else if cs.all isBareChar then cs
  else singleQuote cs

end Chars

/-- The text between single quotes. -/
def singleQuote (s : String) : String :=
  String.ofList (Chars.singleQuote s.toList)

/-- The text as one word, in quotes only where they are needed. -/
def quote (s : String) : String :=
  String.ofList (Chars.quote s.toList)

end Worktop.Shell

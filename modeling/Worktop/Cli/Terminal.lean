import Worktop.Text.Blank

/-!
# Answers typed on a terminal

A terminal hands over what is typed line by line, and lets a line be mended before.
-/

namespace Worktop.Cli.Terminal

/-- Drops blanks and the word before them from the end of what is typed, latest character first. -/
def dropWord (typed : List Char) : List Char :=
  (typed.dropWhile (· = ' ')).dropWhile (· ≠ ' ')

/-- The line that is read, where `handed` has been handed over before its end and `typed` has not,
both latest character first.  The end of input hands over what is typed, or, if that is nothing, ends
the line. -/
def lineFrom (handed typed : List Char) : List Char → List Char
  | [] => (typed ++ handed).reverse
  | c :: rest =>
    if c = '\n' || c = '\r' then ('\n' :: typed ++ handed).reverse
    else if c = '\x04' then
      if typed.isEmpty then handed.reverse else lineFrom (typed ++ handed) [] rest
    else if c = '\x7f' then lineFrom handed (typed.drop 1) rest
    else if c = '\x15' then lineFrom handed [] rest
    else if c = '\x17' then lineFrom handed (dropWord typed) rest
    else lineFrom handed (c :: typed) rest

/-- The first line of what is typed. -/
def line (typed : String) : String :=
  String.ofList (lineFrom [] [] typed.toList)

/-- Whether a line says yes. -/
def saysYes (line : String) : Bool :=
  ["y", "Y", "yes"].contains (Text.trim line)

end Worktop.Cli.Terminal

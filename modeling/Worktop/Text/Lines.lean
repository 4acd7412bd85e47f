/-!
# Lines and pieces

Splitting a text into lines and at a separator, and looking for one text inside another.
-/

namespace Worktop.Text

namespace Chars

/-- A line without the carriage return that may stand before its line feed. -/
def dropReturn (line : List Char) : List Char :=
  if line.getLast? = some '\r' then line.dropLast else line

/-- The lines of a text, of which `pending` is the part of the current line already read, last
character first.  A line feed ends a line, so a text that ends in one has no empty last line. -/
def linesFrom (pending : List Char) : List Char → List (List Char)
  | [] => if pending.isEmpty then [] else [pending.reverse]
  | c :: cs =>
    if c = '\n' then dropReturn pending.reverse :: linesFrom [] cs else linesFrom (c :: pending) cs

/-- The lines of a text. -/
def lines (cs : List Char) : List (List Char) :=
  linesFrom [] cs

/-- What stands before and after the first `sep`. -/
def splitFirst? (sep : Char) : List Char → Option (List Char × List Char)
  | [] => none
  | c :: cs =>
    if c = sep then some ([], cs) else (splitFirst? sep cs).map fun p => (c :: p.1, p.2)

/-- What follows `lead`, where the text begins with it. -/
def dropLead? : List Char → List Char → Option (List Char)
  | [], cs => some cs
  | _ :: _, [] => none
  | l :: lead, c :: cs => if l = c then dropLead? lead cs else none

/-- Whether `part` occurs in a text. -/
def occurs (part : List Char) : List Char → Bool
  | [] => part.isEmpty
  | c :: cs => part.isPrefixOf (c :: cs) || occurs part cs

end Chars

/-- The lines of a text: a line feed ends a line, and a carriage return right before it goes too. -/
def lines (s : String) : List String :=
  (Chars.lines s.toList).map String.ofList

/-- What stands before and after the first `sep`. -/
def splitFirst? (sep : Char) (s : String) : Option (String × String) :=
  (Chars.splitFirst? sep s.toList).map fun p => (String.ofList p.1, String.ofList p.2)

/-- What follows `lead`, where the text begins with it. -/
def dropLead? (lead s : String) : Option String :=
  (Chars.dropLead? lead.toList s.toList).map String.ofList

/-- Whether `part` occurs in `s`. -/
def occurs (part s : String) : Bool :=
  Chars.occurs part.toList s.toList

/-- Texts one after another with `sep` between neighbours. -/
def joinWith (sep : String) : List String → String
  | [] => ""
  | [s] => s
  | s :: t :: rest => s ++ sep ++ joinWith sep (t :: rest)

/-- At least `width` characters: blanks fill up on the right. -/
def padRight (width : Nat) (s : String) : String :=
  s ++ String.ofList (List.replicate (width - s.length) ' ')

end Worktop.Text

import Worktop.Text.Lines

/-!
# Paths

Paths are texts and are kept as they were written.  A path is read as segments between slashes;
empty segments and `.` say nothing, except that a relative path may begin with `.`.
-/

namespace Worktop.Path

/-- Whether a path starts at the root. -/
def isAbsolute (p : String) : Bool :=
  p.toList.head? = some '/'

/-- The pieces between slashes: one more than there are slashes. -/
def splitSlashes : List Char → List (List Char)
  | [] => [[]]
  | c :: cs =>
    if c = '/' then [] :: splitSlashes cs
    else
      match splitSlashes cs with
      | [] => [[c]]
      | s :: rest => (c :: s) :: rest

/-- The segments of a path. -/
def segments (p : String) : List String :=
  (splitSlashes p.toList).map String.ofList

/-- Segments, last one first, without those at the end of the path that say nothing. -/
def trimTail : List String → List String
  | [] => []
  | [s] => if s = "" then [] else [s]
  | s :: t :: rest => if s = "" ∨ s = "." then trimTail (t :: rest) else s :: t :: rest

/-- The last segment that says something, where it is a name. -/
def name? (p : String) : Option String :=
  match trimTail (segments p).reverse with
  | [] => none
  | s :: _ => if s = "." ∨ s = ".." then none else some s

/-- The text of segments, last one first, of a path that is absolute or not. -/
def render (absolute : Bool) : List String → String
  | [] => if absolute then "/" else ""
  | kept => Text.joinWith "/" kept.reverse

/-- The paths above one whose segments are given last one first, nearest first. -/
def parentsFrom (absolute : Bool) : List String → List String
  | [] => []
  | [s] => if s = "" then [] else [render absolute []]
  | s :: t :: rest =>
    if s = "" ∨ s = "." then parentsFrom absolute (t :: rest)
    else render absolute (trimTail (t :: rest)) :: parentsFrom absolute (t :: rest)

/-- The paths above a path, nearest first: each lacks the last segment that says something. -/
def parents (p : String) : List String :=
  parentsFrom (isAbsolute p) (segments p).reverse

/-- The path above a path; the root and the empty path have none. -/
def parent? (p : String) : Option String :=
  (parents p).head?

/-- `child` as seen from `base`. -/
def join (base child : String) : String :=
  if isAbsolute child || base.isEmpty then child
  else if base.toList.getLast? = some '/' then base ++ child
  else base ++ "/" ++ child

/-- The absolute path of a place, given by its names from the root on. -/
def ofNames (names : List String) : String :=
  "/" ++ Text.joinWith "/" names

end Worktop.Path

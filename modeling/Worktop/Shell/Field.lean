import Worktop.FileSystem.Basic
import Worktop.Shell.Pattern

/-!
# Fields

What becomes of an expanded word: it is split into fields where expansions brought separators, and
fields with patterns become the paths that fit.
-/

namespace Worktop.Shell

/-- A part of an expanded word: a character, a mark that there is a field even if it is empty, or the
end of a field. -/
inductive Atom where
  | char (c : Char) (quoted expanded : Bool)
  | present
  | fieldEnd
  deriving DecidableEq, Repr

/-- Characters of a field, marked where they are quoted. -/
abbrev Marked := List (Char × Bool)

namespace Atom

/-- The characters of a value as it is put into a word. -/
def ofValue (quoted : Bool) (value : Bytes) : List Atom :=
  value.map fun c => .char c quoted (!quoted)

/-- The characters, where nothing is split. -/
def marked : List Atom → Marked
  | [] => []
  | .char c quoted _ :: rest => (c, quoted) :: marked rest
  | .present :: rest => marked rest
  | .fieldEnd :: rest => (' ', true) :: marked rest

/-- The text, where nothing is split. -/
def text (atoms : List Atom) : Bytes :=
  (marked atoms).map (·.1)

/-- Where a separator stands: at the start or behind a separator that is a blank, behind one that is
none, or in a field. -/
inductive Place where
  | outside
  | closed
  | inField (field : Marked)

/-- Splits at separators.  Blanks count as one, with the other separator they stand around; two other
separators have an empty field between them. -/
def split (separators : Bytes) (place : Place) : List Atom → List Marked
  | [] =>
    match place with
    | .inField field => [field.reverse]
    | _ => []
  | .present :: rest =>
    match place with
    | .inField field => split separators (.inField field) rest
    | _ => split separators (.inField []) rest
  | .fieldEnd :: rest =>
    match place with
    | .inField field => field.reverse :: split separators .outside rest
    | _ => split separators .outside rest
  | .char c quoted expanded :: rest =>
    if expanded && separators.contains c then
      let isBlank := c = ' ' || c = '\t' || c = '\n'
      match place with
      | .inField field =>
        field.reverse :: split separators (if isBlank then .closed else .outside) rest
      | .closed => split separators (if isBlank then .closed else .outside) rest
      | .outside =>
        if isBlank then split separators .outside rest else [] :: split separators .outside rest
    else
      match place with
      | .inField field => split separators (.inField ((c, quoted) :: field)) rest
      | _ => split separators (.inField [(c, quoted)]) rest

end Atom

namespace Field

/-- The segments of a field between slashes. -/
def segments : Marked → List Marked
  | [] => [[]]
  | (c, q) :: rest =>
    match segments rest with
    | [] => [[(c, q)]]
    | s :: more => if c = '/' then [] :: s :: more else ((c, q) :: s) :: more

/-- The names in a directory. -/
def namesIn (files : FileSystem) (path : String) : List String :=
  match files.locate path with
  | .error _ => []
  | .ok place => files.nodes.filterMap fun e =>
    match FileSystem.namesBelow? place e.1 with
    | some [name] => some name
    | _ => none

/-- The names in a directory that a segment fits, among them those of the directory itself and of the
one above.  A point at the start is fitted by a point only. -/
def fitting (files : FileSystem) (directory : Bytes) (segment : Marked) : List Bytes :=
  let pattern := Pattern.ofMarked (segment.length + 1) segment
  let names := (namesIn files (Bytes.text (if directory.isEmpty then ['.'] else directory))).map
    Bytes.ofText
  (['.'] :: ['.', '.'] :: names).filter fun name =>
    Pattern.accepts pattern name &&
      (name.head? ≠ some '.' || (segment.head?.map (·.1)) = some '.')

/-- The paths that segments fit, below a path that ends in a slash or is empty. -/
def pathsBelow (files : FileSystem) (base : Bytes) : List Marked → List Bytes
  | [] => []
  | [last] =>
    if Pattern.isMarked last then (fitting files base last).map (base ++ ·)
    else
      let path := base ++ last.map (·.1)
      if last.isEmpty || files.pathExists (Bytes.text path) then [path] else []
  | segment :: rest =>
    if Pattern.isMarked segment then
      ((fitting files base segment).map fun name =>
        pathsBelow files (base ++ name ++ ['/']) rest).flatten
    else pathsBelow files (base ++ segment.map (·.1) ++ ['/']) rest

/-- A field as paths that it fits, in order, or as its own text if there is none. -/
def paths (files : FileSystem) (field : Marked) : List Bytes :=
  let own := field.map (·.1)
  if !Pattern.isMarked field then [own]
  else
    match pathsBelow files [] (segments field) with
    | [] => [own]
    | found => found.mergeSort fun a b => decide (String.ofList a ≤ String.ofList b)

end Field

end Worktop.Shell

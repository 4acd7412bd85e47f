import Worktop.Digest.Sha256
import Worktop.Text.Utf8

/-!
# Handles of branches

A handle is a name for a branch that is safe as a file name and as a window name.  A plain name is
its own handle; any other name is cleaned and marked with a digest of itself, so that two branches
share a handle only if their digests collide.
-/

namespace Worktop.Branch

/-- The characters of plain names: ASCII letters and digits, `-` and `_`. -/
def isPlainChar (c : Char) : Bool :=
  c.isAlphanum || c = '-' || c = '_'

/-- A name that is its own handle. -/
def isPlain (name : List Char) : Bool :=
  !name.isEmpty && name.all isPlainChar

/-- A name with `-` in place of every character that is not plain. -/
def sanitize (name : List Char) : List Char :=
  name.map fun c => if isPlainChar c then c else '-'

/-- A text without the dashes at its ends. -/
def trimDashes (cs : List Char) : List Char :=
  ((cs.dropWhile (· = '-')).reverse.dropWhile (· = '-')).reverse

/-- The readable part of a marked handle. -/
def stem (name : List Char) : List Char :=
  match trimDashes (sanitize name) with
  | [] => ['w', 'o', 'r', 'k', 's', 'p', 'a', 'c', 'e']
  | cs => cs

/-- The first eight hexadecimal digits of the SHA-256 digest of a name. -/
def shortHash (name : List Char) : List Char :=
  Digest.Sha256.hex 4 (name.flatMap String.utf8EncodeChar)

/-- The handle of a name.  No plain name has a `+` in it. -/
def handleChars (name : List Char) : List Char :=
  if isPlain name then name else stem name ++ '+' :: shortHash name

/-- The handle of a branch. -/
def handle (branch : String) : String :=
  String.ofList (handleChars branch.toList)

end Worktop.Branch

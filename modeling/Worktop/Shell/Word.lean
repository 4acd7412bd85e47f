import Worktop.Text.Utf8

/-!
# Words of the shell language

A shell works on bytes.  Here a text of the shell is a list of characters below 256, each of which
is a byte, so that its syntax can be told by characters.
-/

namespace Worktop.Shell

/-- A text of bytes, each of them the character of its number. -/
abbrev Bytes := List Char

namespace Bytes

/-- The bytes of a text. -/
def ofText (s : String) : Bytes :=
  (Text.Utf8.encode s).map fun b => Char.ofNat b.toNat

/-- The bytes as such. -/
def toList8 (bs : Bytes) : List UInt8 :=
  bs.map fun c => UInt8.ofNat c.toNat

/-- The text that the bytes are, with U+FFFD for what is no text. -/
def text (bs : Bytes) : String :=
  Text.Utf8.lossyText (toList8 bs)

/-- The bytes of a file. -/
def ofList8 (bs : List UInt8) : Bytes :=
  bs.map fun b => Char.ofNat b.toNat

/-- A number in decimal digits. -/
def ofInt (n : Int) : Bytes :=
  (toString n).toList

end Bytes

mutual

/-- A piece of a word.  What comes out of a quoted piece is neither split into fields nor read as a
pattern.  A substitution keeps its text, which is read when it is run. -/
inductive Piece where
  | text (quoted : Bool) (cs : Bytes)
  | parameter (quoted : Bool) (name : Bytes) (use : Use)
  | command (quoted : Bool) (source : Bytes)
  | arithmetic (quoted : Bool) (expression : List Piece)

/-- What is made of the value of a parameter.  Four uses have a word for a parameter that is not
set, or, with `emptyToo`, is set to nothing.  A use that is `bad` stops the script that gets to it. -/
inductive Use where
  | value
  | length
  | default (emptyToo : Bool) (word : List Piece)
  | assign (emptyToo : Bool) (word : List Piece)
  | demand (emptyToo : Bool) (word : List Piece)
  | alternative (emptyToo : Bool) (word : List Piece)
  | trim (fromEnd longest : Bool) (pattern : List Piece)
  | bad

end

/-- A word before its expansion. -/
abbrev Word := List Piece

namespace Word

/-- The text of a word that is neither quoted nor expanded in any part. -/
def bare? : Word → Option Bytes
  | [] => some []
  | .text false cs :: rest => (bare? rest).map (cs ++ ·)
  | _ :: _ => none

end Word

/-- Characters that start a name. -/
def isNameStart (c : Char) : Bool :=
  c.isAlpha || c = '_'

/-- Characters of a name. -/
def isNameChar (c : Char) : Bool :=
  c.isAlphanum || c = '_'

/-- Whether a text is a name. -/
def isName : Bytes → Bool
  | [] => false
  | c :: cs => isNameStart c && cs.all isNameChar

end Worktop.Shell

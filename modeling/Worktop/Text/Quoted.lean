import Worktop.Text.Numeral
import Worktop.Text.Unicode

/-!
# Quoted text

A text in double quotes on one line, with everything that does not show written as an escape.
-/

namespace Worktop.Text.Quoted

/-- A character between double quotes.  Outside ASCII it is escaped by its code point if it has no
visible form of its own or attaches to the character before it. -/
def escape (c : Char) : List Char :=
  if c = '\x00' then ['\\', '0']
  else if c = '\t' then ['\\', 't']
  else if c = '\r' then ['\\', 'r']
  else if c = '\n' then ['\\', 'n']
  else if c = '\\' then ['\\', '\\']
  else if c = '"' then ['\\', '"']
  else if ' ' ≤ c ∧ c ≤ '~' then [c]
  else if Unicode.attaches c || Unicode.isUnprintable c then
    ['\\', 'u', '\x7b'] ++ (Numeral.hex c.toNat).toList ++ ['\x7d']
  else [c]

/-- The characters in quotes. -/
def encode (cs : List Char) : List Char :=
  '"' :: cs.flatMap escape ++ ['"']

end Quoted

/-- The text in double quotes, on one line and with nothing in it that does not show. -/
def quoted (s : String) : String :=
  String.ofList (Quoted.encode s.toList)

end Worktop.Text

import Worktop.Json.Value
import Worktop.Text.Lines
import Worktop.Text.Numeral

/-!
# Writing JSON

Values over several lines, two blanks further in at each nesting.
-/

namespace Worktop.Json

/-- A character of a string.  Only quotes, backslashes and controls are escaped. -/
def escape (c : Char) : List Char :=
  if c = '"' then ['\\', '"']
  else if c = '\\' then ['\\', '\\']
  else if c = '\x08' then ['\\', 'b']
  else if c = '\x0c' then ['\\', 'f']
  else if c = '\n' then ['\\', 'n']
  else if c = '\r' then ['\\', 'r']
  else if c = '\t' then ['\\', 't']
  else if c.toNat < 0x20 then
    ['\\', 'u', '0', '0'] ++ Text.Numeral.hexByte (UInt8.ofNat c.toNat)
  else [c]

/-- A string in quotes. -/
def quote (s : String) : String :=
  String.ofList ('"' :: s.toList.flatMap escape ++ ['"'])

/-- A new line with the blanks of a nesting depth. -/
def newLine (depth : Nat) : String :=
  "\n" ++ String.ofList (List.replicate (2 * depth) ' ')

/-- Pieces in brackets, each on a line of its own. -/
def bracket (opening closing : String) (depth : Nat) (pieces : List String) : String :=
  if pieces.isEmpty then opening ++ closing
  else
    opening ++ newLine (depth + 1) ++ Text.joinWith ("," ++ newLine (depth + 1)) pieces ++
      newLine depth ++ closing

mutual

/-- A value at a nesting depth. -/
def Value.render (depth : Nat) : Value → String
  | .null => "null"
  | .bool b => if b then "true" else "false"
  | .number text => String.ofList text
  | .string text? => quote (text?.getD "")
  | .array items => bracket "[" "]" depth (renderItems (depth + 1) items)
  | .object members => bracket "\x7b" "\x7d" depth (renderMembers (depth + 1) members)

/-- The items of an array. -/
def renderItems (depth : Nat) : List Value → List String
  | [] => []
  | v :: rest => v.render depth :: renderItems depth rest

/-- The members of an object. -/
def renderMembers (depth : Nat) : List (Option String × Value) → List String
  | [] => []
  | (key, v) :: rest =>
    (quote (key.getD "") ++ ": " ++ v.render depth) :: renderMembers depth rest

end

end Worktop.Json

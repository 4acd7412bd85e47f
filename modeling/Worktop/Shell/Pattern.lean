import Worktop.Shell.Word

/-!
# Patterns of the shell language

A star stands for any text, a question mark for one character, and brackets for one of a set.
-/

namespace Worktop.Shell

/-- An item of a pattern.  A set is given by the bounds of ranges. -/
inductive PatternItem where
  | anyText
  | anyChar
  | char (c : Char)
  | set (negated : Bool) (ranges : List (Char × Char))
  deriving DecidableEq, Repr

/-- A pattern. -/
abbrev Pattern := List PatternItem

namespace Pattern

/-- The ranges between brackets and what follows the closing one, which may itself be the first
character of the set. -/
def ranges (first : Bool) : List (Char × Bool) → Option (List (Char × Char) × List (Char × Bool))
  | [] => none
  | (']', false) :: rest => do
    if first then
      let (rs, rest) ← ranges false rest
      some ((']', ']') :: rs, rest)
    else some ([], rest)
  | (low, _) :: ('-', false) :: (high, q) :: rest => do
    if high = ']' && !q then
      let (rs, rest) ← ranges false (('-', true) :: (high, q) :: rest)
      some ((low, low) :: rs, rest)
    else
      let (rs, rest) ← ranges false rest
      some ((low, high) :: rs, rest)
  | (c, _) :: rest => do
    let (rs, rest) ← ranges false rest
    some ((c, c) :: rs, rest)
termination_by cs => cs.length

/-- Reads a pattern; quoted characters, marked by `true`, stand for themselves.  Each item takes one
off the fuel. -/
def ofMarked : Nat → List (Char × Bool) → Pattern
  | 0, _ => []
  | _ + 1, [] => []
  | fuel + 1, (c, quoted) :: rest =>
    if quoted then .char c :: ofMarked fuel rest
    else if c = '*' then .anyText :: ofMarked fuel rest
    else if c = '?' then .anyChar :: ofMarked fuel rest
    else if c = '[' then
      let (negated, inner) :=
        match rest with
        | ('!', false) :: inner => (true, inner)
        | _ => (false, rest)
      match ranges true inner with
      | some (rs, rest) => .set negated rs :: ofMarked fuel rest
      | none => .char c :: ofMarked fuel rest
    else .char c :: ofMarked fuel rest

/-- Whether an item stands for a character. -/
def acceptsChar (item : PatternItem) (c : Char) : Bool :=
  match item with
  | .anyText | .anyChar => true
  | .char d => c = d
  | .set negated rs => (rs.any fun r => r.1 ≤ c && c ≤ r.2) != negated

/-- Whether a pattern stands for a text. -/
def accepts : Pattern → Bytes → Bool
  | [], cs => cs.isEmpty
  | .anyText :: items, [] => accepts items []
  | .anyText :: items, c :: cs => accepts items (c :: cs) || accepts (.anyText :: items) cs
  | _ :: _, [] => false
  | item :: items, c :: cs => acceptsChar item c && accepts items cs
termination_by items cs => items.length + cs.length

/-- Takes from an end of a text the shortest or longest part that a pattern stands for. -/
def trim (items : Pattern) (fromEnd longest : Bool) (cs : Bytes) : Bytes :=
  let cuts := List.range (cs.length + 1)
  let cuts := if longest == fromEnd then cuts else cuts.reverse
  let fits (n : Nat) := accepts items (if fromEnd then cs.drop n else cs.take n)
  match cuts.find? fits with
  | some n => if fromEnd then cs.take n else cs.drop n
  | none => cs

/-- Whether characters that are not quoted could stand for others. -/
def isMarked (cs : List (Char × Bool)) : Bool :=
  cs.any fun (c, quoted) => !quoted && (c = '*' || c = '?' || c = '[')

end Pattern

end Worktop.Shell

import Worktop.Toml.Number

/-!
# Moments in TOML

Dates, times of day, and both together, with or without an offset.  They are kept as written, but
must be possible ones.
-/

namespace Worktop.Toml

open Worktop.Text (Numeral.isDigit Numeral.value Reader)

/-- A number of exactly `n` digits, from `least` to `greatest`. -/
def field? (n least greatest : Nat) : Reader Nat := fun cs =>
  let ds := cs.take n
  let value := Numeral.value 10 ds
  if ds.length = n && ds.all (Numeral.isDigit 10) && least ≤ value && value ≤ greatest then
    some (value, cs.drop n)
  else none

/-- A certain character. -/
def mark? (c : Char) : List Char → Option (List Char)
  | d :: rest => if c = d then some rest else none
  | [] => none

/-- How many days a month has. -/
def daysIn (year month : Nat) : Nat :=
  if month = 2 then
    if year % 4 = 0 ∧ (year % 100 ≠ 0 ∨ year % 400 = 0) then 29 else 28
  else if month = 4 ∨ month = 6 ∨ month = 9 ∨ month = 11 then 30
  else 31

/-- Skips a date. -/
def skipDate? (cs : List Char) : Option (List Char) := do
  let (year, cs) ← field? 4 0 9999 cs
  let (month, cs) ← field? 2 1 12 (← mark? '-' cs)
  let (_, cs) ← field? 2 1 (daysIn year month) (← mark? '-' cs)
  some cs

/-- Skips a time of day.  A minute may have a leap second. -/
def skipTime? (cs : List Char) : Option (List Char) := do
  let (_, cs) ← field? 2 0 23 cs
  let (_, cs) ← field? 2 0 59 (← mark? ':' cs)
  let (_, cs) ← field? 2 0 60 (← mark? ':' cs)
  match cs with
  | '.' :: rest =>
    let after := rest.dropWhile (Numeral.isDigit 10)
    if after.length < rest.length then some after else none
  | _ => some cs

/-- Skips an offset from universal time, if there is one. -/
def skipOffset? : List Char → Option (List Char)
  | [] => some []
  | c :: rest => do
    if c = 'Z' || c = 'z' then some rest
    else if c = '+' || c = '-' then
      let (_, rest) ← field? 2 0 23 rest
      let (_, rest) ← field? 2 0 59 (← mark? ':' rest)
      some rest
    else some (c :: rest)

/-- Skips a time of day that follows a date, if one does. -/
def skipTimeOfDate? (cs : List Char) : Option (List Char) :=
  match cs with
  | c :: rest =>
    if c = 'T' || c = 't' || c = ' ' then
      match skipTime? rest with
      | some rest => skipOffset? rest
      | none => some cs
    else some cs
  | [] => some []

/-- A moment. -/
def moment? : Reader Value := fun cs => do
  let rest ←
    match skipDate? cs with
    | some rest => skipTimeOfDate? rest
    | none => skipTime? cs
  some (.moment (String.ofList (written cs rest)), rest)

end Worktop.Toml

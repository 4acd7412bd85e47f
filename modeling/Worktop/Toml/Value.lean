/-!
# TOML documents

Tables of values, each table with the way it came to be: that decides what may still be added to
it.
-/

namespace Worktop.Toml

/-- How a table came to be: written between braces, under a header of its own (or the document
itself), on the way of a header to another table, or on the way of a dotted key to a value. -/
inductive Origin where
  | inline
  | header
  | headerPath
  | keyPath
  deriving DecidableEq, Repr

/-- A value.  Floating-point numbers and moments are kept as they were written.  `tables` are the
tables under headers in double brackets, in order. -/
inductive Value where
  | string (text : String)
  | integer (n : Int)
  | float (written : String)
  | boolean (b : Bool)
  | moment (written : String)
  | array (items : List Value)
  | table (origin : Origin) (entries : List (String × Value))
  | tables (elements : List (List (String × Value)))
  deriving Repr

/-- The entries of a table, in order; no two have the same key. -/
abbrev Table := List (String × Value)

namespace Table

/-- Gives a key a value, in the place of the one it has, or at the end. -/
def set (table : Table) (key : String) (value : Value) : Table :=
  if table.any (·.1 = key) then table.map fun e => if e.1 = key then (key, value) else e
  else table ++ [(key, value)]

/-- Adds an entry under a new key. -/
def add? (table : Table) (key : String) (value : Value) : Option Table :=
  if table.any (·.1 = key) then none else some (table ++ [(key, value)])

/-- Adds an entry under a dotted key: a path of tables, and a new key in the last of them.  The
tables between must be without a header, or lie in the last of the tables under one; the last must
be of dotted keys only. -/
def addAlong? (key : String) (value : Value) : List String → Table → Option Table
  | [], table => table.add? key value
  | step :: path, table =>
    match table.lookup step with
    | none => do
      let inner ← addAlong? key value path []
      some (table.set step (.table .keyPath inner))
    | some (.table origin inner) => do
      if origin = .keyPath || (origin = .headerPath && !path.isEmpty) then
        let inner ← addAlong? key value path inner
        some (table.set step (.table origin inner))
      else none
    | some (.tables elements) => do
      let inner ← elements.getLast?
      if path.isEmpty then none
      else
        let inner ← addAlong? key value path inner
        some (table.set step (.tables (elements.dropLast ++ [inner])))
    | some _ => none

/-- Changes the table at a path of headers; of the tables under one header, the last. -/
def changeAlong? (change : Table → Option Table) : List String → Table → Option Table
  | [], table => change table
  | step :: path, table =>
    match table.lookup step with
    | none => do
      let inner ← changeAlong? change path []
      some (table.set step (.table .headerPath inner))
    | some (.table origin inner) => do
      if origin = .inline then none
      else
        let inner ← changeAlong? change path inner
        some (table.set step (.table origin inner))
    | some (.tables elements) => do
      let inner ← changeAlong? change path (← elements.getLast?)
      some (table.set step (.tables (elements.dropLast ++ [inner])))
    | some _ => none

/-- Fills the table under a header, which no other header has named yet. -/
def open? (fill : Table → Option Table) (key : String) (table : Table) : Option Table :=
  match table.lookup key with
  | none => do some (table.set key (.table .header (← fill [])))
  | some (.table .headerPath inner) => do some (table.set key (.table .header (← fill inner)))
  | some _ => none

/-- Fills one more of the tables under a header in double brackets. -/
def extend? (fill : Table → Option Table) (key : String) (table : Table) : Option Table :=
  match table.lookup key with
  | none => do some (table.set key (.tables [← fill []]))
  | some (.tables elements) => do some (table.set key (.tables (elements ++ [← fill []])))
  | some _ => none

end Table

end Worktop.Toml

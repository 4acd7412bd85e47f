import Worktop.Toml.Line

/-!
# Reading TOML documents

Version 1.0 of the format.
-/

namespace Worktop.Toml

/-- A header with the assignments below it. -/
structure Block where
  header : Header
  body : List Assignment
  deriving Repr

/-- The assignments above the first header, and the blocks of the headers. -/
def blocksOf : List Line → List Assignment × List Block
  | [] => ([], [])
  | .assignment a :: lines =>
    let (lead, blocks) := blocksOf lines
    (a :: lead, blocks)
  | .header header :: lines =>
    let (body, blocks) := blocksOf lines
    ([], { header, body } :: blocks)

namespace Table

/-- Adds what some assignments say. -/
def assignAll? (assignments : List Assignment) (table : Table) : Option Table :=
  assignments.foldlM (fun table a => table.addAlong? a.key.last a.value a.key.path) table

/-- Adds a block to a document. -/
def addBlock? (document : Table) (block : Block) : Option Table :=
  let fill := assignAll? block.body
  let change := if block.header.several then extend? fill else open? fill
  document.changeAlong? (change block.header.key.last) block.header.key.path

/-- The document that a text is.  A byte order mark may stand in front of it. -/
def ofText? (s : String) : Option Table := do
  let cs :=
    match s.toList with
    | '\uFEFF' :: rest => rest
    | cs => cs
  let (lead, blocks) := blocksOf (← lines? (cs.length + 1) cs)
  blocks.foldlM addBlock? (← assignAll? lead [])

end Table

end Worktop.Toml

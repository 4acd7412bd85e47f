import Worktop.Proofs.Worktree.Stanza

/-! # Listings of worktrees

What git prints for the worktrees of a repository is `Worktop.Worktree.Listing.print`. Nothing of it
hangs on the blanks at the ends of its lines (`Worktop.Worktree.Listing.entriesFrom_congr`).
-/

namespace Worktop.Worktree

open Text (SingleLine trimEnd)

namespace Listing

/-- Reading lines is reading them without the blanks at their ends. -/
theorem entriesFrom_congr : ∀ {lines lines' : List String},
    lines.map trimEnd = lines'.map trimEnd → ∀ (first : Bool) (current : Option Entry),
    entriesFrom first current lines = entriesFrom first current lines'
  | [], [], _, _, _ => rfl
  | [], _ :: _, same, _, _ => by cases same
  | _ :: _, [], same, _, _ => by cases same
  | line :: lines, line' :: lines', same, first, current => by
    obtain ⟨head, tail⟩ := List.cons.inj same
    simp only [entriesFrom, head, entriesFrom_congr tail]

/-! ## Listings as git prints them -/

/-- The line that says what a worktree has checked out. -/
def checkoutLine (branch : Option String) : String :=
  (branch.map ("branch refs/heads/" ++ ·)).getD "detached"

/-- The lines that git prints for a worktree. -/
def block (entry : Entry) : List String :=
  ("worktree " ++ entry.path) :: (entry.head.map ("HEAD " ++ ·)).toList ++
    [checkoutLine entry.branch] ++
    (if entry.prunable then ["prunable gitdir file points to non-existent location"] else []) ++
    [""]

/-- The listing that git prints for worktrees. -/
def print (entries : List Entry) : String :=
  Text.unlines (entries.flatMap block)

/-- What git can print of a worktree so that it can be read back. -/
structure Printable (entry : Entry) : Prop where
  path : SingleLine entry.path
  head : ∀ head, entry.head = some head → SingleLine head
  branch : ∀ name, entry.branch = some name → SingleLine name

instance (entry : Entry) : Decidable (Printable entry) :=
  decidable_of_iff (SingleLine entry.path ∧ (∀ head ∈ entry.head, SingleLine head) ∧
      ∀ name ∈ entry.branch, SingleLine name)
    ⟨fun holds => ⟨holds.1, holds.2.1, holds.2.2⟩,
      fun printable => ⟨printable.path, printable.head, printable.branch⟩⟩

end Listing

end Worktop.Worktree

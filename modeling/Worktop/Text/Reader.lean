/-!
# Readers

What grammars are read with.
-/

namespace Worktop.Text

/-- Takes a piece off the front of a text and gives the rest, if the text starts with such a
piece. -/
abbrev Reader (α : Type) := List Char → Option (α × List Char)

end Worktop.Text

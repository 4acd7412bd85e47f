import Worktop.Json.Reader

/-!
# The pane list of WezTerm

`wezterm cli list --format json` prints one entry for each pane.  Of an entry only the tab, the pane
and the title of the tab matter.
-/

namespace Worktop.Mux

/-- A pane and the tab it is in. -/
structure PaneEntry where
  tab : Nat
  pane : Nat
  title : String := ""
  deriving DecidableEq, Repr

namespace PaneEntry

/-- A number below 2^64, written without sign, fraction and exponent. -/
def word? : Json.Value → Option Nat
  | .number text => (Text.Numeral.decimal? text).filter (· < Text.Numeral.wordLimit)
  | _ => none

/-- A text. -/
def text? : Json.Value → Option String
  | .string text? => text?
  | _ => none

/-- The values of a key in an object. -/
def valuesOf (key : String) (members : List (Option String × Json.Value)) : List Json.Value :=
  (members.filter (·.1 = some key)).map (·.2)

/-- The entry with the given values of its keys: the numbers are needed, the title is not, and no
key is given twice. -/
def ofValues? : List Json.Value → List Json.Value → List Json.Value → Option PaneEntry
  | [tab], [pane], titles => do
    let tab ← word? tab
    let pane ← word? pane
    match titles with
    | [] => some { tab, pane }
    | [title] => (text? title).map fun title => { tab, pane, title }
    | _ => none
  | _, _, _ => none

/-- The entry that a value means: an object, or an array of the tab, the pane and maybe the title.
Other keys do not matter, as long as they are texts. -/
def ofValue? : Json.Value → Option PaneEntry
  | .object members =>
    if members.all (·.1.isSome) then
      ofValues? (valuesOf "tab_id" members) (valuesOf "pane_id" members)
        (valuesOf "tab_title" members)
    else none
  | .array [tab, pane] => ofValues? [tab] [pane] []
  | .array [tab, pane, title] => ofValues? [tab] [pane] [title]
  | _ => none

/-- The entries that a text lists. -/
def listOfText? (s : String) : Option (List PaneEntry) :=
  match Json.Value.ofText? s with
  | some (.array items) => items.mapM ofValue?
  | _ => none

end PaneEntry

/-- The name of a pane of WezTerm: a number below 2^64 in its shortest form, whatever form it was
printed in. -/
def paneName? (printed : String) : Option String :=
  (Text.Numeral.word64? printed.toList).map toString

end Worktop.Mux

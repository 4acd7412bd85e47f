import Worktop.Proofs.Text.Lines
import Worktop.Worktree.Listing

/-! # What any text lists

A listing need not be one that git printed. In any text at all, each line that begins a worktree
stands for one entry, of which the lines up to the next blank one, or up to the next that begins a
worktree, say what is known (`Worktop.Worktree.entriesOfListing_eq_stanzas`). Lines that stand
elsewhere are not read (`Worktop.Worktree.Listing.stanzas_stray`).
-/

namespace Worktop.Worktree

open Text (trimEnd)

namespace Listing

/-- The path in a line that begins a worktree: the first word of such a line is `worktree`, and the
path is what stands after the blank behind that. -/
def heading? (line : String) : Option String :=
  let text := (trimEnd line).toList
  if text.takeWhile (· ≠ ' ') = "worktree".toList then
    some (String.ofList (text.dropWhile (· ≠ ' ')).tail)
  else none

/-- A line that is not blank and begins no worktree. -/
def isAttribute (line : String) : Bool :=
  trimEnd line ≠ "" && (heading? line).isNone

/-- What is known of a worktree once one more line about it is read. -/
def tell (entry : Entry) (line : String) : Entry :=
  describe entry (keyed (trimEnd line)).1 (keyed (trimEnd line)).2

/-- A worktree that a line begins, and the lines about it. -/
structure Stanza where
  path : String
  attributes : List String

/-- What a stanza says. -/
def Stanza.entry (stanza : Stanza) (isMain : Bool) : Entry :=
  stanza.attributes.foldl tell { path := stanza.path, isMain }

/-- The stanzas of some lines. -/
def stanzas : List String → List Stanza
  | [] => []
  | line :: rest =>
    match heading? line with
    | some path => { path, attributes := rest.takeWhile isAttribute } :: stanzas rest
    | none => stanzas rest

/-! ## Single lines -/

/-- The key of a line is its first word. -/
theorem keyed_eq (line : String) :
    keyed line = (String.ofList (line.toList.takeWhile (· ≠ ' ')),
      String.ofList (line.toList.dropWhile (· ≠ ' ')).tail) := by
  have parts : keyed line = ((Text.Chars.splitFirst? ' ' line.toList).getD (line.toList, [])).map
      String.ofList String.ofList := by
    unfold keyed Text.splitFirst?
    cases Text.Chars.splitFirst? ' ' line.toList with
    | none => simp
    | some parts => rfl
  rw [parts, Text.Chars.splitFirst?_getD]
  rfl

theorem heading?_eq (line : String) :
    heading? line = if (keyed (trimEnd line)).1 = "worktree" then
      some (keyed (trimEnd line)).2 else none := by
  unfold heading?
  rw [keyed_eq]
  simp only [← String.toList_inj, String.toList_ofList]

theorem filled_of_heading {line path : String} (heading : heading? line = some path) :
    trimEnd line ≠ "" := by
  intro blank
  rw [heading?, blank] at heading
  cases heading

variable (first : Bool) (current : Option Entry) (lines : List String) {line : String}

theorem entriesFrom_heading {path : String} (heading : heading? line = some path) :
    entriesFrom first current (line :: lines) =
      current.toList ++ entriesFrom (first && current.isNone)
        (some { path, isMain := first && current.isNone }) lines := by
  have filled := filled_of_heading heading
  rw [heading?_eq] at heading
  split at heading
  · rename_i begins
    cases heading
    simp only [entriesFrom, filled, begins, ↓reduceIte]
  · cases heading

theorem entriesFrom_empty (blank : trimEnd line = "") :
    entriesFrom first current (line :: lines) =
      current.toList ++ entriesFrom (first && current.isNone) none lines := by
  simp only [entriesFrom, blank, ↓reduceIte]

theorem entriesFrom_attribute (about : isAttribute line = true) :
    entriesFrom first current (line :: lines) =
      entriesFrom first (current.map (tell · line)) lines := by
  obtain ⟨filled, plain⟩ := Bool.and_eq_true_iff.mp about
  have other : (keyed (trimEnd line)).1 ≠ "worktree" := by
    intro begins
    rw [heading?_eq, if_pos begins] at plain
    cases plain
  simp only [entriesFrom, of_decide_eq_true filled, other, ↓reduceIte]
  rfl

/-- A line is blank, or begins a worktree, or is about one. -/
theorem line_cases (line : String) :
    trimEnd line = "" ∨ (∃ path, heading? line = some path) ∨ isAttribute line = true := by
  by_cases blank : trimEnd line = ""
  · exact .inl blank
  · cases heading : heading? line with
    | some path => exact .inr (.inl ⟨path, rfl⟩)
    | none => exact .inr (.inr (by simp [isAttribute, blank, heading]))

theorem heading?_of_empty (blank : trimEnd line = "") : heading? line = none := by
  rw [heading?, blank]
  rfl

theorem heading?_of_attribute (about : isAttribute line = true) : heading? line = none :=
  Option.isNone_iff_eq_none.mp (Bool.and_eq_true_iff.mp about).2

theorem not_isAttribute_of_empty (blank : trimEnd line = "") : isAttribute line = false := by
  simp [isAttribute, blank]

theorem not_isAttribute_of_heading {path : String} (heading : heading? line = some path) :
    isAttribute line = false := by
  simp [isAttribute, heading]

/-! ## All lines -/

/-- What lines list after a worktree has begun: this one, with what the lines before the next blank
or beginning say of it, and then one for each stanza. Only the first of all may be main. -/
theorem entriesFrom_eq_stanzas : entriesFrom first current lines =
    (current.map fun entry => (lines.takeWhile isAttribute).foldl tell entry).toList ++
      (stanzas lines).mapIdx fun index stanza =>
        stanza.entry (first && current.isNone && index == 0) := by
  induction lines generalizing first current with
  | nil => cases current <;> rfl
  | cons line lines ih =>
    obtain blank | ⟨path, heading⟩ | about := line_cases line
    · rw [entriesFrom_empty _ _ _ blank, ih, stanzas, heading?_of_empty blank,
        List.takeWhile_cons_of_neg (by simp [not_isAttribute_of_empty blank])]
      cases current <;> simp
    · rw [entriesFrom_heading _ _ _ heading, ih, stanzas, heading,
        List.takeWhile_cons_of_neg (by simp [not_isAttribute_of_heading heading])]
      cases current <;> simp [List.mapIdx_cons, Stanza.entry]
    · rw [entriesFrom_attribute _ _ _ about, ih, stanzas, heading?_of_attribute about,
        List.takeWhile_cons_of_pos about]
      cases current <;> simp

/-- What is known already of where a worktree is, and whether it is the main one, stays so. -/
theorem tell_kept (entry : Entry) (line : String) :
    (tell entry line).path = entry.path ∧ (tell entry line).isMain = entry.isMain := by
  unfold tell describe
  split
  · exact ⟨rfl, rfl⟩
  split
  · exact ⟨rfl, rfl⟩
  split
  · exact ⟨rfl, rfl⟩
  · exact ⟨rfl, rfl⟩

theorem foldl_tell_kept (entry : Entry) : (lines.foldl tell entry).path = entry.path ∧
    (lines.foldl tell entry).isMain = entry.isMain := by
  induction lines generalizing entry with
  | nil => exact ⟨rfl, rfl⟩
  | cons line lines ih =>
    rw [List.foldl_cons, (ih _).1, (ih _).2]
    exact tell_kept entry line

theorem Stanza.entry_kept (stanza : Stanza) (isMain : Bool) :
    (stanza.entry isMain).path = stanza.path ∧ (stanza.entry isMain).isMain = isMain :=
  foldl_tell_kept stanza.attributes { path := stanza.path, isMain }

theorem path_stanzas : (stanzas lines).map (·.path) = lines.filterMap heading? := by
  induction lines with
  | nil => rfl
  | cons line lines ih =>
    cases heading : heading? line with
    | none => rw [stanzas, heading, List.filterMap_cons_none heading, ih]
    | some path => rw [stanzas, heading, List.filterMap_cons_some heading, List.map_cons, ih]

/-- Lines after which no worktree is being read of: none at all, or lines that end in a blank one. -/
def Idle (lines : List String) : Prop :=
  ∀ last, lines.getLast? = some last → trimEnd last = ""

theorem Idle.tail {line : String} {lines : List String} (idle : Idle (line :: lines)) :
    Idle lines := by
  intro last found
  apply idle last
  rw [List.getLast?_cons, found]
  rfl

/-- Where no worktree is being read of, lines are read as if they came first. -/
theorem stanzas_append {front : List String} (idle : Idle front) (rest : List String) :
    stanzas (front ++ rest) = stanzas front ++ stanzas rest := by
  induction front with
  | nil => rfl
  | cons line front ih =>
    rw [List.cons_append, stanzas, stanzas, ih idle.tail]
    cases heading : heading? line with
    | none => rfl
    | some path =>
      have ended : front.takeWhile isAttribute ≠ front := by
        intro whole
        cases last : front.getLast? with
        | none =>
          rw [List.getLast?_eq_none_iff.mp last] at idle
          exact filled_of_heading heading (idle line rfl)
        | some l =>
          have all : front.all isAttribute = true := whole ▸ List.all_takeWhile
          have about := List.all_eq_true.mp all l (List.mem_of_getLast? last)
          rw [not_isAttribute_of_empty (idle.tail l last)] at about
          cases about
      rw [List.takeWhile_append, if_neg fun length => ended ?_]
      · rfl
      · exact (List.takeWhile_prefix _).eq_of_length length

/-- Lines are not read where no worktree is being read of, up to the next that begins one. -/
theorem stanzas_stray {front strays : List String} (idle : Idle front)
    (stray : ∀ line ∈ strays, heading? line = none) (rest : List String) :
    stanzas (front ++ strays ++ rest) = stanzas (front ++ rest) := by
  have skipped : stanzas (strays ++ rest) = stanzas rest := by
    induction strays with
    | nil => rfl
    | cons line strays ih =>
      obtain ⟨plain, others⟩ := List.forall_mem_cons.mp stray
      rw [List.cons_append, stanzas, plain]
      exact ih others
  rw [List.append_assoc, stanzas_append idle, skipped, stanzas_append idle]

end Listing

/-- Any text at all is read stanza by stanza, and the first stanza is about the main worktree. -/
theorem entriesOfListing_eq_stanzas (listing : String) :
    entriesOfListing listing = (Listing.stanzas (Text.lines listing)).mapIdx fun index stanza =>
      stanza.entry (index == 0) := by
  rw [entriesOfListing, Listing.entriesFrom_eq_stanzas]
  simp

theorem path_entriesOfListing (listing : String) :
    (entriesOfListing listing).map (·.path) =
      (Text.lines listing).filterMap Listing.heading? := by
  rw [entriesOfListing_eq_stanzas, ← Listing.path_stanzas]
  apply List.ext_getElem
  · simp
  · intro index _ _
    simp [(Listing.Stanza.entry_kept _ _).1]

theorem isMain_entriesOfListing {listing : String} {index : Nat}
    (bound : index < (entriesOfListing listing).length) :
    (entriesOfListing listing)[index].isMain = (index == 0) := by
  simp only [entriesOfListing_eq_stanzas, List.getElem_mapIdx]
  exact (Listing.Stanza.entry_kept _ _).2

/-- The first worktree is the main one: whatever a listing says, its first entry is main and no other
entry is. -/
theorem entriesOfListing_shape (listing : String) :
    entriesOfListing listing = [] ∨ ∃ main rest, entriesOfListing listing = main :: rest ∧
      main.isMain = true ∧ ∀ other ∈ rest, other.isMain = false := by
  have main (index : Nat) (bound : index < (entriesOfListing listing).length) :=
    isMain_entriesOfListing bound
  cases entries : entriesOfListing listing with
  | nil => exact .inl rfl
  | cons first rest =>
    simp only [entries] at main
    refine .inr ⟨first, rest, rfl, main 0 (by simp), fun other member => ?_⟩
    obtain ⟨index, bound, rfl⟩ := List.mem_iff_getElem.mp member
    exact main (index + 1) (by simpa using bound)

end Worktop.Worktree

import Mathlib.Data.List.TakeWhile
import Worktop.Proofs.Worktree.Listing

/-! # Reading back listings in porcelain

A listing in porcelain has a block of lines for each worktree, in which lines with other labels may
stand anywhere (`Worktop.Worktree.Listing.Attributes`, `Worktop.Worktree.Listing.Lists`). However
its lines are ended, it is read as the worktrees that it lists, but for the blanks that a path, a
commit or a branch ends in (`Worktop.Worktree.entriesOfListing_of_lists`). Main statement:
`Worktop.Worktree.porcelain_read_back`.
-/

namespace Worktop.Worktree

open Text (SingleLine trimEnd)

namespace Listing

/-! ## Single lines -/

/-- The word that a line begins with. -/
structure Label (label : String) : Prop where
  single : SingleLine label
  whole : ' ' ∉ label.toList
  filled : label ≠ ""

instance (label : String) : Decidable (Label label) :=
  decidable_of_iff (SingleLine label ∧ ' ' ∉ label.toList ∧ label ≠ "")
    ⟨fun holds => ⟨holds.1, holds.2.1, holds.2.2⟩,
      fun word => ⟨word.single, word.whole, word.filled⟩⟩

variable {label : String}

theorem splitFirst?_label (word : Label label) : Text.splitFirst? ' ' label = none := by
  cases split : Text.splitFirst? ' ' label with
  | none => rfl
  | some parts =>
    obtain ⟨whole, -⟩ := Text.eq_append_of_splitFirst? split
    refine absurd ?_ word.whole
    rw [whole]
    simp

theorem trimEnd_label (word : Label label) : trimEnd label = label := by
  rw [trimEnd, Text.Chars.trimEnd_of_tidy word.single.tidy, String.ofList_toList]

theorem keyed_label (word : Label label) : keyed (trimEnd label) = (label, "") := by
  rw [trimEnd_label word, keyed, splitFirst?_label word]
  rfl

/-- The blanks at the end of a line are taken off what it says. -/
theorem keyed_text (word : Label label) (text : String) :
    keyed (trimEnd (label ++ " " ++ text)) = (label, trimEnd text) := by
  have line : (label ++ " " ++ text).toList = label.toList ++ ' ' :: text.toList := by simp
  have shape := Text.Chars.trimEnd_append (label.toList ++ [' ']) text.toList
  rw [List.append_assoc, List.singleton_append, ← line, ← Text.toList_trimEnd,
    ← Text.toList_trimEnd] at shape
  by_cases blank : (trimEnd text).toList = []
  · rw [if_pos blank, Text.Chars.trimEnd_append, if_pos (by decide), ← Text.toList_trimEnd,
      String.toList_inj, trimEnd_label word] at shape
    rw [shape, ← trimEnd_label word, keyed_label word, trimEnd_label word,
      String.toList_eq_nil_iff.mp blank]
  · rw [if_neg blank] at shape
    have whole : trimEnd (label ++ " " ++ text) =
        label ++ String.singleton ' ' ++ trimEnd text := by
      rw [← String.toList_inj, shape]
      simp
    rw [whole, keyed, Text.splitFirst?_append word.whole]
    rfl

/-- A line with a label, and perhaps a text after it. -/
inductive Labelled (label : String) : String → Prop
  | alone : Labelled label label
  | text (text : String) : Labelled label (label ++ " " ++ text)

theorem Labelled.keyed {line : String} (labelled : Labelled label line) (word : Label label) :
    ∃ value, keyed (trimEnd line) = (label, value) := by
  cases labelled with
  | alone => exact ⟨_, keyed_label word⟩
  | text text => exact ⟨_, keyed_text word text⟩

theorem not_blank_of_keyed {line value : String} (word : Label label)
    (read : keyed (trimEnd line) = (label, value)) : trimEnd line ≠ "" := by
  intro blank
  rw [blank] at read
  exact word.filled (congrArg Prod.fst read).symm

/-- A line that does not begin a worktree speaks of the one that has begun. -/
theorem entriesFrom_describe {line value : String} (word : Label label)
    (read : keyed (trimEnd line) = (label, value)) (other : label ≠ "worktree") (first : Bool)
    (current : Option Entry) (lines : List String) :
    entriesFrom first current (line :: lines) =
      entriesFrom first (current.map (describe · label value)) lines := by
  simp only [entriesFrom, not_blank_of_keyed word read, ↓reduceIte, read, other]

theorem entriesFrom_worktree (path : String) (first : Bool) (current : Option Entry)
    (lines : List String) :
    entriesFrom first current (("worktree " ++ path) :: lines) =
      current.toList ++ entriesFrom (first && current.isNone)
        (some { path := trimEnd path, isMain := first && current.isNone }) lines := by
  have word : Label "worktree" := by decide
  have read : keyed (trimEnd ("worktree " ++ path)) = ("worktree", trimEnd path) :=
    keyed_text word path
  have heading : heading? ("worktree " ++ path) = some (trimEnd path) := by
    rw [heading?_eq, read, if_pos rfl]
  exact entriesFrom_heading first current lines heading

theorem entriesFrom_blank {line : String} (blank : Text.isBlankText line = true) (first : Bool)
    (current : Option Entry) (lines : List String) :
    entriesFrom first current (line :: lines) =
      current.toList ++ entriesFrom (first && current.isNone) none lines := by
  have empty : trimEnd line = "" := by
    rw [← String.toList_inj, Text.toList_trimEnd]
    have none : line.toList.reverse.dropWhile Text.isBlank = [] :=
      List.dropWhile_eq_nil_iff.mpr fun c member =>
        List.all_eq_true.mp blank c (List.mem_reverse.mp member)
    simp [Text.Chars.trimEnd, none]
  exact entriesFrom_empty first current lines empty

/-! ## Blocks -/

/-- The labels of lines that are read. -/
def known : List String := ["worktree", "HEAD", "branch", "prunable"]

/-- Lines that say which commit and which branch a worktree has checked out, and whether it is
prunable, each at most once and in any order. Lines with labels that are not known may stand
anywhere, and a worktree without a branch is said to be detached by one of these. -/
inductive Attributes : Option String → Option String → Bool → List String → Prop
  | nothing : Attributes none none false []
  | unknown {head branch : Option String} {prunable : Bool} {label line : String}
      {lines : List String} (word : Label label) (unknown : label ∉ known)
      (labelled : Labelled label line) (rest : Attributes head branch prunable lines) :
      Attributes head branch prunable (line :: lines)
  | head {branch : Option String} {prunable : Bool} {lines : List String} (head : String)
      (rest : Attributes none branch prunable lines) :
      Attributes (some head) branch prunable (("HEAD " ++ head) :: lines)
  | branch {head : Option String} {prunable : Bool} {lines : List String} (branch : String)
      (rest : Attributes head none prunable lines) :
      Attributes head (some branch) prunable (("branch refs/heads/" ++ branch) :: lines)
  | prunable {head branch : Option String} {line : String} {lines : List String}
      (labelled : Labelled "prunable" line) (rest : Attributes head branch false lines) :
      Attributes head branch true (line :: lines)

/-- Lines that list worktrees, with any number of blank lines between them. -/
inductive Lists : List Entry → List String → Prop
  | nothing : Lists [] []
  | blank {entries : List Entry} {line : String} {lines : List String}
      (blank : Text.isBlankText line = true) (rest : Lists entries lines) :
      Lists entries (line :: lines)
  | worktree {entry : Entry} {entries : List Entry} {attributes lines : List String}
      (described : Attributes entry.head entry.branch entry.prunable attributes)
      (rest : Lists entries lines) :
      Lists (entry :: entries) (("worktree " ++ entry.path) :: attributes ++ lines)

/-- A worktree as it is read: without the blanks that its texts end in. -/
def tidied (entry : Entry) : Entry :=
  { entry with
    path := trimEnd entry.path
    head := entry.head.map trimEnd
    branch := entry.branch.map trimEnd }

theorem trimEnd_reference (branch : String) :
    trimEnd ("refs/heads/" ++ branch) = "refs/heads/" ++ trimEnd branch := by
  rw [← String.toList_inj, Text.toList_trimEnd, String.toList_append, Text.Chars.trimEnd_append]
  split
  · rename_i blank
    have front : Text.Chars.trimEnd "refs/heads/".toList = "refs/heads/".toList := by decide
    rw [front, String.toList_append, Text.toList_trimEnd, blank, List.append_nil]
  · rw [String.toList_append, Text.toList_trimEnd]

/-- What lines say of a worktree is added to what is known of it. -/
theorem entriesFrom_attributes {head branch : Option String} {prunable : Bool}
    {attributes : List String} (described : Attributes head branch prunable attributes)
    (first : Bool) (current : Entry) (lines : List String) :
    entriesFrom first (some current) (attributes ++ lines) =
      entriesFrom first (some
        { current with
          head := (head.map trimEnd).or current.head
          branch := (branch.map trimEnd).or current.branch
          prunable := prunable || current.prunable }) lines := by
  induction described generalizing current with
  | nothing => rfl
  | unknown word unknown labelled rest ih =>
    obtain ⟨value, read⟩ := labelled.keyed word
    simp only [known, List.mem_cons, List.not_mem_nil, or_false, not_or] at unknown
    obtain ⟨worktree, head, branch, prunable⟩ := unknown
    rw [List.cons_append, entriesFrom_describe word read worktree, Option.map_some, ih]
    simp only [describe, head, branch, prunable, ↓reduceIte]
  | head head rest ih =>
    have word : Label "HEAD" := by decide
    have read : keyed (trimEnd ("HEAD " ++ head)) = ("HEAD", trimEnd head) := keyed_text word head
    rw [List.cons_append, entriesFrom_describe word read (by decide), Option.map_some, ih]
    simp [describe]
  | branch branch rest ih =>
    have word : Label "branch" := by decide
    have line : "branch refs/heads/" ++ branch = "branch" ++ " " ++ ("refs/heads/" ++ branch) := by
      have words : "branch refs/heads/" = "branch" ++ " " ++ "refs/heads/" := by decide
      rw [words, String.append_assoc]
    have read := keyed_text word ("refs/heads/" ++ branch)
    rw [← line, trimEnd_reference] at read
    rw [List.cons_append, entriesFrom_describe word read (by decide), Option.map_some, ih]
    simp [describe, shortBranch, Text.dropLead?_append]
  | prunable labelled rest ih =>
    have word : Label "prunable" := by decide
    obtain ⟨value, read⟩ := labelled.keyed word
    rw [List.cons_append, entriesFrom_describe word read (by decide), Option.map_some, ih]
    simp [describe]

/-- Worktrees as they are read, the first of them the main one if `first` holds. -/
def asRead (first : Bool) (entries : List Entry) : List Entry :=
  (entries.map tidied).mapIdx fun index entry => { entry with isMain := first && index == 0 }

theorem entriesFrom_lists {entries : List Entry} {lines : List String}
    (lists : Lists entries lines) (first : Bool) (current : Option Entry) :
    entriesFrom first current lines =
      current.toList ++ asRead (first && current.isNone) entries := by
  induction lists generalizing first current with
  | nothing => simp [entriesFrom, asRead]
  | blank blank rest ih =>
    rw [entriesFrom_blank blank, ih]
    simp
  | @worktree entry entries attributes lines described rest ih =>
    rw [List.cons_append, entriesFrom_worktree, entriesFrom_attributes described, ih]
    simp [asRead, tidied, List.mapIdx_cons]

/-! ## Listings as git prints them -/

theorem attributes_block (entry : Entry) :
    Attributes entry.head entry.branch entry.prunable ((entry.head.map ("HEAD " ++ ·)).toList ++
      [checkoutLine entry.branch] ++
      (if entry.prunable then ["prunable gitdir file points to non-existent location"]
        else [])) := by
  obtain ⟨path, head, branch, isMain, prunable⟩ := entry
  have lastly : Attributes none none prunable (if prunable then
      ["prunable gitdir file points to non-existent location"] else []) := by
    cases prunable with
    | false => exact .nothing
    | true => exact .prunable (.text "gitdir file points to non-existent location") .nothing
  have thereby : Attributes none branch prunable (checkoutLine branch :: (if prunable then
      ["prunable gitdir file points to non-existent location"] else [])) := by
    cases branch with
    | none =>
      have word : Label "detached" := by decide
      exact .unknown word (by decide) .alone lastly
    | some name => exact .branch name lastly
  rw [List.append_assoc]
  cases head with
  | none => exact thereby
  | some head => exact .head head thereby

theorem lists_blocks (entries : List Entry) : Lists entries (entries.flatMap block) := by
  induction entries with
  | nil => exact .nothing
  | cons entry entries ih =>
    have described := attributes_block entry
    have parted : Lists entries ("" :: entries.flatMap block) := .blank (by decide) ih
    rw [List.flatMap_cons, block, List.append_assoc]
    simpa only [List.cons_append, List.append_assoc, List.nil_append] using
      Lists.worktree described parted

theorem block_noFeed {entry : Entry} (printable : Printable entry) :
    ∀ line ∈ block entry, '\n' ∉ line.toList := by
  intro line member
  simp only [block, List.mem_append, List.mem_cons, List.not_mem_nil, or_false, Option.mem_toList,
    Option.map_eq_some_iff] at member
  rcases member with (((rfl | ⟨head, known, rfl⟩) | rfl) | prunable) | rfl
  · simpa using printable.path.noFeed
  · simpa using (printable.head head known).noFeed
  · cases known : entry.branch with
    | none => decide
    | some name => simpa [checkoutLine] using (printable.branch name known).noFeed
  · by_cases gone : entry.prunable = true
    · simp only [gone, ↓reduceIte, List.mem_singleton] at prunable
      rw [prunable]
      decide
    · simp [gone] at prunable
  · decide

/-- Nothing is taken off what does not end in a blank. -/
theorem tidied_eq {entry : Entry} (printable : Printable entry) : tidied entry = entry := by
  have same : ∀ {s : String}, SingleLine s → trimEnd s = s := by
    intro s single
    rw [trimEnd, Text.Chars.trimEnd_of_tidy single.tidy, String.ofList_toList]
  have sameOption : ∀ {s? : Option String}, (∀ s, s? = some s → SingleLine s) →
      s?.map trimEnd = s? := by
    intro s? single
    cases s? with
    | none => rfl
    | some s => rw [Option.map_some, same (single s rfl)]
  unfold tidied
  rw [same printable.path, sameOption printable.head, sameOption printable.branch]

theorem asRead_of_printable {entries : List Entry} (printable : ∀ entry ∈ entries, Printable entry)
    (first : Bool) : asRead first entries =
      entries.mapIdx fun index entry => { entry with isMain := first && index == 0 } := by
  have same : entries.map tidied = entries.map id :=
    List.map_congr_left fun entry member => tidied_eq (printable entry member)
  rw [asRead, same, List.map_id]

end Listing

/-- Any listing in porcelain is read as the worktrees that it lists, but for the blanks that their
texts end in. -/
theorem entriesOfListing_of_lists {entries : List Entry} {lines : List String} {listing : String}
    (lists : Listing.Lists entries lines) (ended : Text.Ended lines listing) :
    entriesOfListing listing = Listing.asRead true entries := by
  rw [entriesOfListing, Listing.entriesFrom_congr ended.trimmed, Listing.entriesFrom_lists lists]
  rfl

/-- What git prints is read back as it was printed. -/
theorem entriesOfListing_print {main : Entry} {others : List Entry}
    (printable : ∀ entry ∈ main :: others, Listing.Printable entry) :
    entriesOfListing (Listing.print (main :: others)) =
      { main with isMain := true } :: others.map fun entry => { entry with isMain := false } := by
  have noFeed : ∀ line ∈ (main :: others).flatMap Listing.block, '\n' ∉ line.toList := by
    intro line member
    obtain ⟨entry, present, inBlock⟩ := List.mem_flatMap.mp member
    exact Listing.block_noFeed (printable entry present) line inBlock
  rw [Listing.print, entriesOfListing_of_lists (Listing.lists_blocks _) (Text.ended_unlines noFeed),
    Listing.asRead_of_printable printable]
  apply List.ext_getElem
  · simp
  · intro index _ _
    cases index <;> simp

/-- **Listings in porcelain are read back.** Whatever ends the lines of a listing, however many blank
lines stand between its worktrees, and whatever lines with unknown labels are among the others, it
is read as just the worktrees that it lists, in order, and the first of them alone is the main
one. -/
theorem porcelain_read_back {entries : List Entry} {lines : List String} {listing : String}
    (printable : ∀ entry ∈ entries, Listing.Printable entry)
    (lists : Listing.Lists entries lines) (ended : Text.Ended lines listing) :
    entriesOfListing listing =
      entries.mapIdx fun index entry => { entry with isMain := index == 0 } := by
  rw [entriesOfListing_of_lists lists ended, Listing.asRead_of_printable printable]
  simp

/-- A bare repository, a worktree whose path begins with a blank and whose branch is named like a
reference, and one that is gone. -/
def ornate : List Entry :=
  [{ path := "/src/bare.git" },
    { path := " /trees/a b", head := some "1f2e", branch := some "refs/heads/a" },
    { path := "/trees/gone", head := some "3d4c", prunable := true }]

/-- Lines that list these worktrees. -/
def ornateLines : List String :=
  ["worktree /src/bare.git", "bare", "", "",
    "worktree  /trees/a b", "locked being moved", "branch refs/heads/refs/heads/a", "HEAD 1f2e", "",
    "worktree /trees/gone", "HEAD 3d4c", "detached", "prunable"]

/-- A text with these lines, ended in different ways. -/
def ornateListing : String :=
  "worktree /src/bare.git\r\nbare\n\n\nworktree  /trees/a b\nlocked being moved\r\n" ++
    "branch refs/heads/refs/heads/a\nHEAD 1f2e\n\n" ++
    "worktree /trees/gone\nHEAD 3d4c\ndetached\nprunable"

theorem ornate_read_back :
    (∀ entry ∈ ornate, Listing.Printable entry) ∧ Listing.Lists ornate ornateLines ∧
      Text.Ended ornateLines ornateListing ∧ entriesOfListing ornateListing =
        [{ path := "/src/bare.git", isMain := true },
          { path := " /trees/a b", head := some "1f2e", branch := some "refs/heads/a" },
          { path := "/trees/gone", head := some "3d4c", prunable := true }] := by
  have printable : ∀ entry ∈ ornate, Listing.Printable entry := by decide
  have bare : Listing.Attributes none none false ["bare"] := by
    have word : Listing.Label "bare" := by decide
    exact .unknown word (by decide) .alone .nothing
  have locked : Listing.Attributes (some "1f2e") (some "refs/heads/a") false
      ["locked being moved", "branch refs/heads/refs/heads/a", "HEAD 1f2e"] := by
    have word : Listing.Label "locked" := by decide
    exact .unknown word (by decide) (.text "being moved")
      (.branch "refs/heads/a" (.head "1f2e" .nothing))
  have gone : Listing.Attributes (some "3d4c") none true ["HEAD 3d4c", "detached", "prunable"] := by
    have word : Listing.Label "detached" := by decide
    exact .head "3d4c" (.unknown word (by decide) .alone (.prunable .alone .nothing))
  have blank : Text.isBlankText "" = true := by decide
  have lists : Listing.Lists ornate ornateLines :=
    @Listing.Lists.worktree ornate[0] _ _ _ bare (.blank blank (.blank blank
      (@Listing.Lists.worktree ornate[1] _ _ _ locked (.blank blank
        (@Listing.Lists.worktree ornate[2] _ _ _ gone .nothing)))))
  have ended : Text.Ended ornateLines ornateListing :=
    .returnFeed (by decide) (.feed (by decide) (.feed (by decide) (.feed (by decide)
      (.feed (by decide) (.returnFeed (by decide) (.feed (by decide) (.feed (by decide)
        (.feed (by decide) (.feed (by decide) (.feed (by decide) (.feed (by decide)
          (.unended (by decide) (by decide)))))))))))))
  exact ⟨printable, lists, ended, porcelain_read_back printable lists ended⟩

end Worktop.Worktree

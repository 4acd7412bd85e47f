import Mathlib.Data.List.Infix
import Worktop.Proofs.Teardown
import Worktop.Proofs.Undoing

/-! # Looking branches up in a listing

A worktree is looked up by its branch, in what was read of a listing. As blanks are taken off the
end of a line, what is found is the first worktree whose branch is the one looked for but for blanks
at its end, and a removal acts on this one (`Worktop.Repository.remove_acts`). Names of branches may
end in white space that is not of ASCII (`Worktop.Branch.Acceptable`). Main statement:
`Worktop.Repository.lookups_exact_iff`.
-/

namespace Worktop

open Text (SingleLine trimEnd isBlank)

namespace Branch

/-- A character that git takes in no name: a control character, a blank, or one of its own marks. -/
def isForbidden (c : Char) : Bool :=
  c.toNat ≤ 0x20 || c.toNat == 0x7F || "~^:?*[\\".toList.contains c

/-- What git takes for the name of a branch. -/
structure Acceptable (name : String) : Prop where
  plain : ∀ c ∈ name.toList, isForbidden c = false
  parts : ∀ part ∈ name.toList.splitOn '/',
    part ≠ [] ∧ part.head? ≠ some '.' ∧ ¬ ".lock".toList <:+ part
  noRange : ¬ "..".toList <:+: name.toList
  noReflog : ¬ "@\x7b".toList <:+: name.toList
  noOption : name.toList.head? ≠ some '-'
  noDot : name.toList.getLast? ≠ some '.'

instance (name : String) : Decidable (Acceptable name) :=
  decidable_of_iff ((name.toList.all fun c => !isForbidden c) = true ∧
      (∀ part ∈ name.toList.splitOn '/',
        part ≠ [] ∧ part.head? ≠ some '.' ∧ ¬ ".lock".toList <:+ part) ∧
      (¬ "..".toList <:+: name.toList) ∧ (¬ "@\x7b".toList <:+: name.toList) ∧
      name.toList.head? ≠ some '-' ∧ name.toList.getLast? ≠ some '.')
    ⟨fun holds => ⟨by simpa using holds.1, holds.2.1, holds.2.2.1, holds.2.2.2.1,
        holds.2.2.2.2.1, holds.2.2.2.2.2⟩,
      fun name => ⟨by simpa using name.plain, name.parts, name.noRange, name.noReflog,
        name.noOption, name.noDot⟩⟩

theorem Acceptable.noFeed {name : String} (acceptable : Acceptable name) : '\n' ∉ name.toList :=
  fun member => absurd (acceptable.plain '\n' member) (by decide)

end Branch

namespace Text

/-- The last character of a text is a blank. -/
def EndsInBlank (s : String) : Prop :=
  ∃ c, s.toList.getLast? = some c ∧ isBlank c = true

theorem not_endsInBlank_trimEnd (s : String) : ¬ EndsInBlank (trimEnd s) := by
  rintro ⟨c, last, blank⟩
  rw [toList_trimEnd, Chars.trimEnd, List.getLast?_reverse] at last
  have shown := List.head?_dropWhile_not isBlank s.toList.reverse
  rw [last] at shown
  exact Bool.false_ne_true (shown.symm.trans blank)

end Text

namespace Worktree

/-- Worktrees as git lists them, of which the first is the main one. -/
def mainFirst (entries : List Entry) : List Entry :=
  entries.mapIdx fun index entry => { entry with isMain := index == 0 }

/-- What git has of a worktree. -/
structure Genuine (entry : Entry) : Prop where
  path : SingleLine entry.path
  head : ∀ head, entry.head = some head → SingleLine head
  branch : ∀ name, entry.branch = some name → Branch.Acceptable name

instance (entry : Entry) : Decidable (Genuine entry) :=
  decidable_of_iff (SingleLine entry.path ∧ (∀ head ∈ entry.head, SingleLine head) ∧
      ∀ name ∈ entry.branch, Branch.Acceptable name)
    ⟨fun holds => ⟨holds.1, holds.2.1, holds.2.2⟩,
      fun genuine => ⟨genuine.path, genuine.head, genuine.branch⟩⟩

theorem Genuine.printable {entry : Entry} (genuine : Genuine entry)
    (tidy : ∀ name, entry.branch = some name → ¬ Text.EndsInBlank name) :
    Listing.Printable entry where
  path := genuine.path
  head := genuine.head
  branch := by
    intro name known
    refine ⟨(genuine.branch name known).noFeed, fun c last => ?_⟩
    exact Bool.eq_false_iff.mpr fun blank => tidy name known ⟨c, last, blank⟩

/-- What is found is the worktree of the branch, and nothing if there is none. -/
def Exact (entries : List Entry) (branch : String) (found : Option Entry) : Prop :=
  ∀ entry, found = some entry ↔ entry ∈ mainFirst entries ∧ entry.branch = some branch

theorem branches_mainFirst (entries : List Entry) :
    (mainFirst entries).filterMap (·.branch) = entries.filterMap (·.branch) := by
  have same : (mainFirst entries).map (·.branch) = entries.map (·.branch) := by
    apply List.ext_getElem
    · simp [mainFirst]
    · intro index _ _
      simp [mainFirst]
  have taken := congrArg (List.filterMap id) same
  simpa only [List.filterMap_map, Function.id_comp] using taken

theorem exact_find? {entries : List Entry} (distinct : (entries.filterMap (·.branch)).Nodup)
    (branch : String) :
    Exact entries branch ((mainFirst entries).find? (·.branch = some branch)) := by
  intro entry
  constructor
  · intro found
    exact ⟨List.mem_of_find?_eq_some found, of_decide_eq_true (List.find?_some found :)⟩
  · intro given
    obtain ⟨member, known⟩ := given
    rw [← branches_mainFirst] at distinct
    cases found : (mainFirst entries).find? (·.branch = some branch) with
    | none => exact absurd (decide_eq_true known) (List.find?_eq_none.mp found entry member)
    | some other =>
      have named : other.branch = some branch := of_decide_eq_true (List.find?_some found :)
      rw [World.eq_of_shared distinct (List.mem_of_find?_eq_some found) member named known]

/-- What is read of a branch does not end in a blank. -/
theorem tidy_of_asRead {entries : List Entry} {entry : Entry} {branch : String}
    (member : entry ∈ Listing.asRead true entries) (known : entry.branch = some branch) :
    ¬ Text.EndsInBlank branch := by
  obtain ⟨index, bound, rfl⟩ := List.mem_mapIdx.mp member
  rw [List.getElem_map] at known
  obtain ⟨name, -, rfl⟩ := Option.map_eq_some_iff.mp known
  exact Text.not_endsInBlank_trimEnd name

/-- Lookups are exact just where no branch ends in a blank. -/
theorem exact_iff {entries : List Entry} (genuine : ∀ entry ∈ entries, Genuine entry)
    (distinct : (entries.filterMap (·.branch)).Nodup) :
    (∀ branch, Branch.Acceptable branch →
        Exact entries branch ((Listing.asRead true entries).find? (·.branch = some branch))) ↔
      ∀ entry ∈ entries, ∀ name, entry.branch = some name → ¬ Text.EndsInBlank name := by
  constructor
  · intro exact entry member name known
    have present : name ∈ (mainFirst entries).filterMap (·.branch) := by
      rw [branches_mainFirst]
      exact List.mem_filterMap.mpr ⟨entry, member, known⟩
    obtain ⟨other, listed, named⟩ := List.mem_filterMap.mp present
    have acceptable := (genuine entry member).branch name known
    have found := (exact name acceptable other).mpr ⟨listed, named⟩
    exact tidy_of_asRead (List.mem_of_find?_eq_some found) named
  · intro tidy branch _
    have printable : ∀ entry ∈ entries, Listing.Printable entry :=
      fun entry member => (genuine entry member).printable (tidy entry member)
    have same : Listing.asRead true entries = mainFirst entries := by
      simp [Listing.asRead_of_printable printable, mainFirst]
    rw [same]
    exact exact_find? distinct branch

end Worktree

namespace Repository

open Act

variable {ω : Type} {host : Host ω} {s s' : Session ω} {r : Repository} {branch : String}

theorem perform_findWorktree {output : Output} {outside : ω} {files : FileSystem}
    (answered : host.answer r.listing s.outside s.files = (.ok output, outside, files))
    (success : output.success = true) (branch : String) :
    (r.findWorktree branch).run.perform host s =
      (.ok ((Worktree.entriesOfListing output.stdout).find? (·.branch = some branch)),
        { s with outside, files }.note (.ran r.listing (.ok output))) := by
  have ran : (exec r.listing).perform host s =
      (.ok output, { s with outside, files }.note (.ran r.listing (.ok output))) :=
    perform_exec answered
  have listed : r.list.run.perform host s = (.ok (Worktree.entriesOfListing output.stdout),
      { s with outside, files }.note (.ran r.listing (.ok output))) := by
    unfold list Worktree.listFrom Worktree.exec
    rw [bind_assoc]
    refine (perform_lift_bind ran).trans ?_
    dsimp only
    rw [pure_bind, if_pos success]
    rfl
  unfold findWorktree
  rw [perform_bind_ok listed]
  rfl

/-- A command that takes away the worktree that was found. -/
def TakesAway (r : Repository) (force : Bool) (found : Option Worktree.Entry) (c : Command) :
    Prop :=
  ∃ entry, found = some entry ∧ entry.isMain = false ∧
    (c = r.git (["worktree", "remove"] ++ (if force then ["--force"] else []) ++ [entry.path]) ∨
      c = r.pruning)

/-- A removal acts on the worktree that was found, and on no other. -/
theorem remove_acts {found : Option Worktree.Entry}
    (finds : (r.findWorktree branch).run.perform host s = (.ok found, s')) (force : Bool) :
    ∃ events, ((r.remove branch force).run.perform host s).2.journal = events ++ s'.journal ∧
      RunsOnly (r.TakesAway force found) events := by
  unfold remove
  rw [perform_bind_ok finds]
  refine Within.only ?_ host s'
  cases found with
  | none => exact within_error _
  | some entry =>
    dsimp only
    split
    · exact within_error _
    · rename_i other
      have linked : entry.isMain = false := Bool.eq_false_iff.mpr other
      apply (Within.pathExists _).lift.andThen
      intro there
      split
      · apply (Worktree.exec_within ⟨entry, rfl, linked, .inl rfl⟩).andThen
        intro output
        split
        · exact within_error _
        · exact within_ok _
      · exact prune_within ⟨entry, rfl, linked, .inr rfl⟩

/-- **Lookups are exact unless a branch ends in a blank.** Against a listing of worktrees, what is
found for a branch is the first worktree whose branch it is but for blanks at the end, and a removal
acts on this one alone. So for every name that git takes just the worktree of this branch is found,
if and only if none of the branches ends in white space. -/
theorem lookups_exact_iff {output : Output} {outside : ω} {files : FileSystem}
    {entries : List Worktree.Entry} {lines : List String}
    (answered : host.answer r.listing s.outside s.files = (.ok output, outside, files))
    (success : output.success = true) (lists : Worktree.Listing.Lists entries lines)
    (ended : Text.Ended lines output.stdout)
    (genuine : ∀ entry ∈ entries, Worktree.Genuine entry)
    (distinct : (entries.filterMap (·.branch)).Nodup) :
    ∃ found : String → Option Worktree.Entry,
      (∀ branch, ((r.findWorktree branch).run.perform host s).1 = .ok (found branch) ∧
        found branch =
          (Worktree.Listing.asRead true entries).find? (·.branch = some branch)) ∧
      (∀ branch force, ∃ events,
        ((r.remove branch force).run.perform host s).2.journal =
          events ++ .ran r.listing (.ok output) :: s.journal ∧
        RunsOnly (r.TakesAway force (found branch)) events) ∧
      ((∀ branch, Branch.Acceptable branch → Worktree.Exact entries branch (found branch)) ↔
        ∀ entry ∈ entries, ∀ name, entry.branch = some name → ¬ Text.EndsInBlank name) := by
  have finds := perform_findWorktree answered success
  rw [Worktree.entriesOfListing_of_lists lists ended] at finds
  exact ⟨fun branch => (Worktree.Listing.asRead true entries).find? (·.branch = some branch),
    fun branch => ⟨congrArg Prod.fst (finds branch), rfl⟩,
    fun branch force => remove_acts (finds branch) force, Worktree.exact_iff genuine distinct⟩

/-- A repository with a worktree on a branch that ends in a blank. -/
def blurred : List Worktree.Entry :=
  [{ path := "repo", head := some "1111111", branch := some "main", isMain := true },
    { path := "trees/wip", head := some "1111111", branch := some "wip\u00a0" }]

/-- git lists these worktrees. -/
def blurredSession : Session Script where
  outside := [{ outcome := .ok { stdout := Worktree.Listing.print blurred } }]
  files := ({} : FileSystem).changeAll [.makeDirectory "trees/wip"]

/-- A repository whose worktrees these are. -/
def blurredRepository : Repository where
  root := "repo"
  base := "trees"

theorem blurred_lookups_exact_iff :
    (∀ entry ∈ blurred, Worktree.Genuine entry) ∧ (blurred.filterMap (·.branch)).Nodup ∧
      ¬ ∀ branch, Branch.Acceptable branch → ∃ found, Worktree.Exact blurred branch found ∧
        ((blurredRepository.findWorktree branch).run.perform Script.host blurredSession).1 =
          .ok found := by
  have genuine : ∀ entry ∈ blurred, Worktree.Genuine entry := by decide
  have distinct : (blurred.filterMap (·.branch)).Nodup := by decide
  have noFeed : ∀ line ∈ blurred.flatMap Worktree.Listing.block, '\n' ∉ line.toList := by decide
  have answered : Script.host.answer blurredRepository.listing blurredSession.outside
      blurredSession.files =
        (.ok { stdout := Worktree.Listing.print blurred }, [], blurredSession.files) := rfl
  obtain ⟨found, finds, -, exactly⟩ := lookups_exact_iff (r := blurredRepository)
    (s := blurredSession) answered rfl (Worktree.Listing.lists_blocks blurred)
    (Text.ended_unlines noFeed) genuine distinct
  refine ⟨genuine, distinct, fun all => ?_⟩
  have exact : ∀ branch, Branch.Acceptable branch →
      Worktree.Exact blurred branch (found branch) := by
    intro branch acceptable
    obtain ⟨other, exact, same⟩ := all branch acceptable
    rw [(finds branch).1] at same
    cases same
    exact exact
  exact exactly.mp exact blurred[1] (by decide) "wip\u00a0" (by decide)
    ⟨'\u00a0', by decide, by decide⟩

/-- No worktree is on the branch, and another one's is found and removed. -/
theorem blurred_branch_is_mistaken :
    (∀ entry ∈ blurred, Worktree.Genuine entry) ∧ (blurred.filterMap (·.branch)).Nodup ∧
      Branch.Acceptable "wip" ∧ some "wip" ∉ blurred.map (·.branch) ∧
      ((blurredRepository.findWorktree "wip").run.perform Script.host blurredSession).1 =
        .ok (some { path := "trees/wip", head := some "1111111", branch := some "wip" }) ∧
      ((blurredRepository.findWorktree "wip\u00a0").run.perform Script.host blurredSession).1 =
        .ok none ∧
      blurredRepository.git ["worktree", "remove", "--force", "trees/wip"] ∈
        ((blurredRepository.remove "wip" true).run.perform Script.host
          blurredSession).2.journal.filterMap Event.command? := by
  decide +kernel

end Repository

end Worktop

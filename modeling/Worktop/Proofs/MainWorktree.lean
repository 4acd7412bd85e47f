import Worktop.Proofs.Overview
import Worktop.Proofs.Removal
import Worktop.Proofs.Undoing

/-! # The main worktree

Git lists the main worktree first, and whatever it prints the first worktree of a listing is taken
for the main one. It is where a repository is said to be
(`Worktop.Worktree.mainRoot_emits`), it is not listed as a workspace
(`Worktop.Lifecycle.list_emits`), and a removal that finds it on the branch to remove ends there
(`Worktop.Lifecycle.Remove.removeLocked_refuses`). Main statement:
`Worktop.Lifecycle.first_listed_is_main`.
-/

namespace Worktop

open Act hiding gives_lift_bind

variable {ω : Type}

namespace Worktree

theorem find?_isMain (listing : String) :
    (entriesOfListing listing).find? (·.isMain) = (entriesOfListing listing).head? := by
  obtain empty | ⟨main, rest, shape, isMain, -⟩ := entriesOfListing_shape listing
  · rw [empty]
    rfl
  · rw [shape, List.find?_cons, isMain]
    rfl

/-- Where a listing says that the main worktree is. -/
def rootOfListing (directory listing : String) : Except Error String :=
  match (Text.lines listing).filterMap Listing.heading? with
  | [] => .error (.notARepository directory)
  | path :: _ => .ok path

/-- The main worktree is where the first line that begins a worktree says. -/
theorem mainRoot_emits (directory : String) :
    Emits (mainRoot directory : Result ω String).run fun events result =>
      ∃ reply, events = [.ran (git directory ["worktree", "list", "--porcelain"]) reply] ∧
        ∀ output, reply = .ok output → output.success = true →
          result = rootOfListing directory output.stdout := by
  unfold mainRoot
  refine (Repository.list_emits (r := { root := directory, base := "" })).andThen ?_ ?_
  · intro entries old given
    obtain ⟨reply, rfl, told⟩ := given
    obtain ⟨output, rfl, success, rfl⟩ := Repository.entriesOfReply_ok told
    have paths := path_entriesOfListing output.stdout
    rw [find?_isMain]
    unfold rootOfListing
    cases entries : entriesOfListing output.stdout with
    | nil =>
      rw [entries] at paths
      refine emits_error ⟨_, rfl, fun output' same _ => ?_⟩
      cases same
      rw [← paths]
      rfl
    | cons main others =>
      rw [entries] at paths
      refine emits_ok ⟨_, rfl, fun output' same _ => ?_⟩
      cases same
      rw [← paths]
      rfl
  · intro e old given
    obtain ⟨reply, rfl, told⟩ := given
    refine ⟨reply, rfl, fun output answered success => ?_⟩
    rw [answered, Repository.entriesOfReply_output, if_pos success] at told
    cases told

end Worktree

namespace Lifecycle

variable {setup : Setup} {workspace : Workspace}

/-- All worktrees but the first are summed up. -/
theorem list_emits :
    Emits (list setup : Worktree.Result ω (List Summary)).run fun events result =>
      ∃ windows reply earlier, events = .ran setup.repository.listing reply :: earlier ∧
        ∀ output, reply = .ok output → output.success = true →
          result = .ok ((Worktree.entriesOfListing output.stdout).tail.map
            (summarize setup.windowPrefix windows)) := by
  intro host s
  let windows := (exec setup.mux.windowQuery).perform host s
  let worktrees := ((exec setup.repository.listing).perform host windows.2).1
  have told : (list setup).run.perform host s = (summariesOf setup windows.1 worktrees, _) :=
    list_perform setup host s
  refine ⟨[.ran setup.repository.listing worktrees, .ran setup.mux.windowQuery windows.1], ?_,
    windowsTold setup windows.1, worktrees, _, rfl, fun output answered success => ?_⟩
  · rw [told]
    rfl
  · rw [told, summariesOf, answered, Repository.entriesOfReply_output, if_pos success]
    rfl

namespace Remove

/-- The worktree that a removal finds is the main one if this is on the branch. -/
theorem lookUp_emits (branch : String) :
    Emits (lookUp setup branch : Worktree.Result ω _).run fun events result =>
      ∃ reply later, events = later ++ [.ran setup.repository.listing reply] ∧
        ∀ entry found, result = .ok (entry, found) →
          setup.repository.listedFor? branch reply = entry := by
  unfold lookUp
  refine (Repository.findWorktree_finds branch).andThen ?_ ?_
  · intro entry old given
    obtain ⟨reply, rfl, -, listed⟩ := given
    refine (Repository.branchExists_emits branch).andThen ?_ ?_
    · intro found later _
      refine emits_ok ⟨reply, later, rfl, fun entry' found' same => ?_⟩
      cases same
      exact listed
    · exact fun e later _ => ⟨reply, later, rfl, nofun⟩
  · intro e old given
    obtain ⟨reply, rfl, -⟩ := given
    exact ⟨reply, [], rfl, nofun⟩

/-- A removal first asks for the worktrees. If the first of them is on the branch it ends there. -/
theorem removeLocked_refuses (setup : Setup) (workspace : Workspace) (force : Bool) :
    Emits (removeLocked setup workspace force : Act ω (Outcome RemoveState)) fun events _ =>
      ∃ reply later, events = later ++ [.ran setup.repository.listing reply] ∧
        ∀ output, reply = .ok output → output.success = true →
          (Worktree.entriesOfListing output.stdout).head?.bind (·.branch) = some workspace.branch →
            RunsOnly (fun c => ¬ c.Destructive) events := by
  rw [removeLocked_eq]
  refine ((lookUp_emits workspace.branch).and (lookUp_harmless workspace.branch)).bind ?_
  intro seen old given
  obtain ⟨⟨reply, later, rfl, listed⟩, harmless⟩ := given
  cases seen with
  | error e => exact emits_pure ⟨reply, later, rfl, fun _ _ _ _ => harmless⟩
  | ok seen =>
    obtain ⟨entry, found⟩ := seen
    dsimp only
    split
    · exact emits_pure ⟨reply, later, rfl, fun _ _ _ _ => harmless⟩
    · rename_i linked
      have rest : Act.Plain ((setup.mux.windowExists workspace.windowName).run >>= fun window =>
          conclude setup workspace force { window, worktree := entry, branch := found } :
            Act ω (Outcome RemoveState)) :=
        Within.bind ((Multiplexer.windowExists_mild _).imp fun _ _ => trivial)
          fun _ => conclude_plain workspace force _
      refine rest.lockless.mono fun new _ _ => ?_
      refine ⟨reply, new ++ later, by rw [List.append_assoc], fun output answered success main => ?_⟩
      refine absurd ?_ linked
      rw [← listed entry found rfl, answered,
        Repository.listedFor?_eq (by rw [Repository.entriesOfReply_output, if_pos success])]
      obtain empty | ⟨first, others, shape, isMain, -⟩ :=
        Worktree.entriesOfListing_shape output.stdout
      · rw [empty] at main
        cases main
      · rw [shape] at main ⊢
        rw [List.find?_cons_of_pos (by simpa using main)]
        exact isMain

end Remove

/-- The listing that tells a removal whether its branch is in the main worktree is its first. -/
theorem remove_refuses (setup : Setup) (branch : String) (force : Bool) :
    Emits (remove setup branch force : Act ω (Outcome RemoveState)) fun events _ =>
      ∀ output,
        (Event.repliesTo setup.repository.listing events).getLast? = some (.ok output) →
        output.success = true →
        (Worktree.entriesOfListing output.stdout).head?.bind (·.branch) = some branch →
          RunsOnly (fun c => ¬ c.Destructive) events := by
  rw [remove_eq_underLock]
  unfold underLock
  refine (emits_acquire setup.lockTable branch).bind ?_
  intro guard? old single
  cases guard? with
  | error e =>
    refine emits_pure fun _ _ _ _ => ?_
    rw [single]
    exact runsOnly_quiet _ fun _ _ same => by cases same
  | ok guard =>
    refine (Remove.removeLocked_refuses setup (setup.workspace branch) force).bind ?_
    intro outcome inner given
    obtain ⟨reply, later, rfl, refuses⟩ := given
    refine (emits_release guard).bind fun _ last released => emits_pure ?_
    rw [single, released]
    intro output first success main
    have answered : reply = .ok output := by
      simpa [Event.repliesTo, List.filterMap_append] using first
    have given : RunsOnly (fun c => ¬ c.Destructive) [.locked guard] :=
      runsOnly_quiet _ fun _ _ same => by cases same
    have returned : RunsOnly (fun c => ¬ c.Destructive) [.released guard] :=
      runsOnly_quiet _ fun _ _ same => by cases same
    have harmless := refuses output answered success main
    exact Composable.append (Composable.append returned harmless) given

/-- **The first worktree listed is the main one.** In any text, the lines whose first word is
`worktree` are the worktrees listed, in this order, and the first of them alone is main; what stands
before it, or between a blank line and the next of them, changes nothing. So a repository is where
the first such line says, and nowhere if there is none; this worktree is not listed as a workspace;
and a removal that finds it on the branch to remove runs nothing destructive. -/
theorem first_listed_is_main :
    (∀ listing, (Worktree.entriesOfListing listing).map (·.path) =
        (Text.lines listing).filterMap Worktree.Listing.heading? ∧
      (∀ first ∈ (Worktree.entriesOfListing listing).head?, first.isMain = true) ∧
      ∀ other ∈ (Worktree.entriesOfListing listing).tail, other.isMain = false) ∧
    (∀ listing listing' front strays rest, Worktree.Listing.Idle front →
      (∀ line ∈ strays, Worktree.Listing.heading? line = none) →
      Text.lines listing = front ++ strays ++ rest → Text.lines listing' = front ++ rest →
        Worktree.entriesOfListing listing = Worktree.entriesOfListing listing') ∧
    (∀ directory, Emits (Worktree.mainRoot directory : Worktree.Result ω String).run
      fun events result => ∃ reply,
        events = [.ran (Worktree.git directory ["worktree", "list", "--porcelain"]) reply] ∧
        ∀ output, reply = .ok output → output.success = true →
          result = Worktree.rootOfListing directory output.stdout) ∧
    (∀ setup, Emits (list setup : Worktree.Result ω (List Summary)).run fun events result =>
      ∃ windows reply earlier, events = .ran setup.repository.listing reply :: earlier ∧
        ∀ output, reply = .ok output → output.success = true →
          result = .ok ((Worktree.entriesOfListing output.stdout).tail.map
            (summarize setup.windowPrefix windows))) ∧
    ∀ setup branch force, Emits (remove setup branch force : Act ω (Outcome RemoveState))
      fun events _ => ∀ output,
        (Event.repliesTo setup.repository.listing events).getLast? = some (.ok output) →
        output.success = true →
        (Worktree.entriesOfListing output.stdout).head?.bind (·.branch) = some branch →
          RunsOnly (fun c => ¬ c.Destructive) events := by
  refine ⟨fun listing => ⟨Worktree.path_entriesOfListing listing, ?_⟩, ?_,
    Worktree.mainRoot_emits, fun setup => list_emits, remove_refuses⟩
  · obtain empty | ⟨main, rest, shape, isMain, others⟩ := Worktree.entriesOfListing_shape listing
    · simp [empty]
    · rw [shape]
      exact ⟨fun first same => Option.some.inj same ▸ isMain, others⟩
  · intro listing listing' front strays rest idle stray lines lines'
    rw [Worktree.entriesOfListing_eq_stanzas, Worktree.entriesOfListing_eq_stanzas, lines, lines',
      Worktree.Listing.stanzas_stray idle stray]

end Lifecycle

end Worktop

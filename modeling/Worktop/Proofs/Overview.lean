import Mathlib.Data.List.Forall2
import Worktop.Lifecycle.Overview
import Worktop.Proofs.Commands
import Worktop.Proofs.InTurn
import Worktop.Proofs.Queries
import Worktop.Proofs.Worktree.Stanza
import Worktop.Rehearsal

/-! # The list of workspaces

All that the list comes to is told by two replies: to the listing of windows, and to that of
worktrees (`Worktop.Lifecycle.list_perform`). Main statement: it fails only where git does, has the
linked worktrees as git lists them, and says of a window what the multiplexer would say of it
(`Worktop.Lifecycle.list_agrees`).
-/

namespace Worktop

open Act

variable {ω : Type}

/-- All but the first of the worktrees listed are linked. -/
theorem Worktree.filter_linked (listing : String) :
    (entriesOfListing listing).filter (!·.isMain) = (entriesOfListing listing).tail := by
  obtain empty | ⟨main, rest, shape, isMain, others⟩ := entriesOfListing_shape listing
  · rw [empty]
    rfl
  · have linked : ∀ entry ∈ rest, (!entry.isMain) = true := fun entry member => by
      rw [others entry member]
      rfl
    rw [shape, List.filter_cons_of_neg (by simp [isMain]), List.filter_eq_self.mpr linked]
    rfl

namespace Lifecycle

/-- The names of the windows there are, as far as a reply tells. -/
def windowsTold (setup : Setup) (reply : Reply) : List String :=
  (setup.mux.namesListed reply).toOption.getD []

/-- The list, told by the replies to the two listings. -/
def summariesOf (setup : Setup) (windows worktrees : Reply) :
    Except Worktree.Error (List Summary) :=
  (setup.repository.entriesOfReply worktrees).map fun entries =>
    entries.tail.map (summarize setup.windowPrefix (windowsTold setup windows))

theorem summariesOf_reads (setup : Setup) (windows : Reply) :
    Reads (do
      let entries ← setup.repository.list
      pure ((entries.filter (!·.isMain)).map
        (summarize setup.windowPrefix (windowsTold setup windows))) :
        Worktree.Result ω (List Summary)).run
      (setup.repository.git ["worktree", "list", "--porcelain"]) (summariesOf setup windows) := by
  refine Repository.list_reads.andThen ?_ ?_
  · intro reply entries read
    obtain ⟨output, -, -, rfl⟩ := Repository.entriesOfReply_ok read.symm
    rw [summariesOf, read, Worktree.filter_linked]
    rfl
  · intro reply e unread
    rw [summariesOf, unread]
    rfl

theorem list_perform (setup : Setup) (host : Host ω) (s : Session ω) :
    let windows := ((exec setup.mux.windowQuery).perform host s).1
    let seen := s.asked host [setup.mux.windowQuery]
    let listing := setup.repository.git ["worktree", "list", "--porcelain"]
    let worktrees := ((exec listing).perform host seen).1
    (list setup).run.perform host s =
      (summariesOf setup windows worktrees, seen.asked host [listing]) := by
  intro windows seen listing worktrees
  have told := Multiplexer.listWindows_reads (m := setup.mux) host s
  unfold list
  rw [perform_lift_bind told, ← summariesOf_reads setup windows host seen]
  unfold windowsTold
  cases setup.mux.namesListed windows with
  | ok names => rfl
  | error e => rfl

/-- What is said of a worktree, where `windows` is the reply to the listing of windows. -/
structure SummedUp (setup : Setup) (windows : Reply) (entry : Worktree.Entry) (summary : Summary) :
    Prop where
  branch : summary.branch = entry.branch
  path : summary.path = entry.path
  prunable : summary.prunable = entry.prunable
  windowName : summary.windowName =
    entry.branch.map fun branch => (setup.workspace branch).windowName
  /-- Who asks for the window of the branch, and gets the same reply, is told the same. -/
  hasWindow : ∀ {ω' : Type} (host : Host ω') (s : Session ω'),
    ((exec setup.mux.windowQuery).perform host s).1 = windows →
      (summary.hasWindow = true ↔ ∃ branch, entry.branch = some branch ∧
        ((setup.mux.windowExists (setup.workspace branch).windowName).run.perform host s).1 =
          .ok true)

theorem summedUp_summarize (setup : Setup) (windows : Reply) (entry : Worktree.Entry) :
    SummedUp setup windows entry
      (summarize setup.windowPrefix (windowsTold setup windows) entry) where
  branch := rfl
  path := rfl
  prunable := rfl
  windowName := rfl
  hasWindow host s answered := by
    have looked (branch : String) :
        ((setup.mux.windowExists (setup.workspace branch).windowName).run.perform host s).1 =
          (setup.mux.namesListed windows).map
            (·.contains (Workspace.windowNameOf setup.windowPrefix branch)) := by
      rw [Multiplexer.windowExists_reads _ host s, answered]
      rfl
    unfold summarize windowsTold
    simp only [looked]
    cases entry.branch with
    | none => simp
    | some branch =>
      cases setup.mux.namesListed windows with
      | ok names => simp [Except.map, Except.toOption]
      | error e => simp [Except.map, Except.toOption]

theorem summariesOf_eq_error_iff {setup : Setup} {windows worktrees : Reply} {e : Worktree.Error} :
    summariesOf setup windows worktrees = .error e ↔
      setup.repository.entriesOfReply worktrees = .error e := by
  unfold summariesOf
  cases setup.repository.entriesOfReply worktrees with
  | ok entries => simp [Except.map]
  | error e' => simp [Except.map]

theorem isOk_summariesOf {setup : Setup} {windows worktrees : Reply} :
    (summariesOf setup windows worktrees).isOk = true ↔ worktrees.Succeeded := by
  constructor
  · intro fine
    cases read : setup.repository.entriesOfReply worktrees with
    | ok entries =>
      obtain ⟨output, answered, success, -⟩ := Repository.entriesOfReply_ok read.symm
      exact ⟨output, answered, success⟩
    | error e =>
      rw [summariesOf_eq_error_iff.mpr read] at fine
      cases fine
  · rintro ⟨output, rfl, success⟩
    rw [summariesOf, Repository.entriesOfReply_output, if_pos success]
    rfl

/-- **The list agrees with git and with the multiplexer.** It fails where the listing of worktrees
fails, and with its error. Else it has the worktrees but for the first, in their order; where the
listing of windows fails none of them has a window. -/
theorem list_agrees (setup : Setup) (host : Host ω) (s : Session ω) :
    let windows := ((exec setup.mux.windowQuery).perform host s).1
    let seen := s.asked host [setup.mux.windowQuery]
    let listing := setup.repository.git ["worktree", "list", "--porcelain"]
    let worktrees := ((exec listing).perform host seen).1
    let listed := (list setup).run.perform host s
    listed.2 = seen.asked host [listing] ∧
    (listed.1.isOk = true ↔ worktrees.Succeeded) ∧
    (∀ e, listed.1 = .error e ↔ (setup.repository.list.run.perform host seen).1 = .error e) ∧
    ∀ output, worktrees = .ok output → output.success = true → ∃ summaries,
      listed.1 = .ok summaries ∧
      List.Forall₂ (SummedUp setup windows) (Worktree.entriesOfListing output.stdout).tail
        summaries := by
  intro windows seen listing worktrees listed
  have told : listed = (summariesOf setup windows worktrees, seen.asked host [listing]) :=
    list_perform setup host s
  refine ⟨by rw [told], by rw [told, isOk_summariesOf], ?_, ?_⟩
  · intro e
    rw [told, summariesOf_eq_error_iff, Repository.list_reads host seen]
  · intro output answered success
    have read : setup.repository.entriesOfReply worktrees =
        .ok (Worktree.entriesOfListing output.stdout) := by
      rw [answered, Repository.entriesOfReply_output, if_pos success]
    refine ⟨_, by rw [told, summariesOf, read]; rfl, ?_⟩
    rw [List.forall₂_map_right_iff, List.forall₂_same]
    intro entry _
    exact summedUp_summarize setup windows entry

/-- A repository with its worktrees beside it, and tmux. -/
def shared : Setup where
  repository := { root := "repo", base := "trees" }
  mux := { kind := .tmux }
  shell := { path := "/bin/sh" }

/-- Of two linked worktrees one has a window, and the other is on no branch. -/
def mixedListing : String :=
  Text.joinWith "\n" ["worktree /repo", "branch refs/heads/main", "",
    "worktree /trees/demo", "branch refs/heads/demo", "", "worktree /trees/spare", "detached", ""]

/-- The windows are listed, and then the worktrees. -/
def mixed : Session Script where
  outside :=
    [{ outcome := .ok { stdout := "@1\ttm-demo\n" } },
      { outcome := .ok { stdout := mixedListing } }]

theorem mixed_list_agrees : ∃ summaries,
    ((list shared).run.perform Script.host mixed).1 = .ok summaries ∧
      summaries.map (fun summary => (summary.path, summary.windowName, summary.hasWindow)) =
        [("/trees/demo", some "tm-demo", true), ("/trees/spare", none, false)] := by
  obtain ⟨-, -, -, agrees⟩ := list_agrees shared Script.host mixed
  obtain ⟨summaries, listed, -⟩ := agrees _ rfl rfl
  have told : (((list shared).run.perform Script.host mixed).1.toOption.getD []).map
      (fun summary => (summary.path, summary.windowName, summary.hasWindow)) =
        [("/trees/demo", some "tm-demo", true), ("/trees/spare", none, false)] := by
    decide +kernel
  rw [listed] at told
  exact ⟨summaries, listed, told⟩

end Lifecycle

end Worktop

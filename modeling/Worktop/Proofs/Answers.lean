import Worktop.Lifecycle.Basic
import Worktop.Proofs.Course
import Worktop.Proofs.Mux.WindowListing
import Worktop.Proofs.Worktree.Porcelain

/-! # What a world tells

What is asked of a sound world is answered as it is: the listings of worktrees and of windows are
read back (`Worktop.Repository.list_tells`, `Worktop.Mux.Tmux.windows_tells`), and from them follows
what each question about a branch or a window is answered. Nothing changes by asking.
-/

namespace Worktop

open Act World

variable {course : Nat → Turn} {w : World} {fs : FileSystem}

/-! ## Git -/

theorem Request.ofGit_showRef (branch : String) :
    ofGit ["show-ref", "--quiet", "--verify", "refs/heads/" ++ branch] = .showRef branch := by
  change Request.showRef ((Text.dropLead? "refs/heads/" ("refs/heads/" ++ branch)).getD _) = _
  rw [Text.dropLead?_append]
  rfl

namespace World

/-- The worktrees as they are read from a listing. -/
def entries (w : World) (fs : FileSystem) : List Worktree.Entry :=
  { entryOf fs w.main with isMain := true } :: w.linked.map (entryOf fs)

theorem Sound.entries_listed (sound : w.Sound) (fs : FileSystem) :
    Worktree.entriesOfListing (w.worktreeListing fs) = w.entries fs := by
  have printable : ∀ entry ∈ w.registrations.map (entryOf fs),
      Worktree.Listing.Printable entry := by
    intro entry member
    obtain ⟨reg, present, rfl⟩ := List.mem_map.mp member
    exact ⟨sound.paths reg present, sound.heads reg present, sound.checkouts reg present⟩
  unfold worktreeListing
  rw [registrations, List.map_cons] at printable ⊢
  rw [Worktree.entriesOfListing_print printable, List.map_map]
  rfl

/-- The first registration of a branch besides the main worktree. -/
def linkedTo? (w : World) (branch : String) : Option Registration :=
  w.linked.find? (·.branch = some branch)

theorem find?_entries {branch : String} (apart : w.main.branch ≠ some branch) (fs : FileSystem) :
    (w.entries fs).find? (·.branch = some branch) = (w.linkedTo? branch).map (entryOf fs) := by
  have skipped : decide ((entryOf fs w.main).branch = some branch) = false := decide_eq_false apart
  unfold entries linkedTo?
  simp only [List.find?_cons, skipped, List.find?_map]
  rfl

end World

theorem Worktree.ends_exec {c : Command} {output : Output} {w' : World} {fs' : FileSystem}
    (answers : ∀ turn, w.respond turn fs (.ofCommand c) = (.ok output, w', fs')) :
    Ends (Worktree.exec c : Worktree.Result Scene Output).run course w fs (.ok output) w' fs' :=
  Ends.lift_bind (Act.ends_exec answers) (tells_ok _)

namespace Repository

variable (r : Repository)

theorem list_tells (sound : w.Sound) :
    Tells (r.list : Worktree.Result Scene _).run course w fs (.ok (w.entries fs)) := by
  refine (Worktree.ends_exec fun _ => rfl).andThen ?_
  rw [← sound.entries_listed]
  exact tells_ok _

theorem findWorktree_tells (sound : w.Sound) {branch : String}
    (apart : w.main.branch ≠ some branch) :
    Tells (r.findWorktree branch : Worktree.Result Scene _).run course w fs
      (.ok ((w.linkedTo? branch).map (entryOf fs))) := by
  refine (r.list_tells sound).andThen ?_
  rw [← find?_entries apart]
  exact tells_ok _

theorem branchExists_tells (branch : String) :
    Tells (r.branchExists branch : Worktree.Result Scene Bool).run course w fs
      (.ok (decide (branch ∈ w.branches))) := by
  have answers : ∀ turn, w.respond turn fs (.ofCommand (r.git
      ["show-ref", "--quiet", "--verify", "refs/heads/" ++ branch])) =
        (.verdict (branch ∈ w.branches), w, fs) := by
    intro turn
    change w.respond turn fs
      (.ofGit ["show-ref", "--quiet", "--verify", "refs/heads/" ++ branch]) = _
    rw [Request.ofGit_showRef]
    rfl
  refine (Worktree.ends_exec answers).andThen ?_
  by_cases present : branch ∈ w.branches
  · simp only [present, decide_true]
    exact tells_ok _
  · simp only [present, decide_false]
    exact tells_ok _

/-- A name that is taken for a branch stands on one line. -/
theorem validateBranchName_leads (branch : String) :
    Leads (r.validateBranchName branch : Worktree.Result Scene Unit).run course w fs
      fun result w' fs' => w' = w ∧ fs' = fs ∧ (result = .ok () → w.takes branch = true) := by
  unfold Repository.validateBranchName
  dsimp only
  split
  · rw [throw_bind]
    exact leads_error ⟨rfl, rfl, fun same => nomatch same⟩
  · have asks : Ends (Worktree.exec (r.git ["check-ref-format", "--branch", branch]) :
        Worktree.Result Scene Output).run course w fs _ w fs :=
      Worktree.ends_exec fun _ => rfl
    refine asks.andThen ?_
    cases taken : w.takes branch with
    | true => exact leads_ok ⟨rfl, rfl, fun _ => rfl⟩
    | false => exact leads_error ⟨rfl, rfl, fun same => nomatch same⟩

end Repository

/-! ## Tmux -/

namespace World

theorem noBlank_of_isId {mark : Char} {id : String} (isId : World.isId mark id = true) :
    ∀ c ∈ id.toList, Text.isBlank c = false := by
  simp only [World.isId, Bool.and_eq_true, List.all_eq_true, Bool.not_eq_true'] at isId
  exact isId.2

theorem head_of_isId {mark : Char} {id : String} (isId : World.isId mark id = true) :
    id.toList.head? = some mark := by
  simp only [World.isId, Bool.and_eq_true, decide_eq_true_eq] at isId
  exact isId.1

theorem Sound.printable (sound : w.Sound) {window : OpenWindow} (present : window ∈ w.windows) :
    Mux.Tmux.Printable (window.id, window.name) := by
  have shown := noBlank_of_isId (sound.ids window present)
  refine ⟨fun tab => ?_, fun feed => ?_, sound.names window present⟩
  · exact absurd (shown _ tab) (by decide)
  · exact absurd (shown _ feed) (by decide)

theorem Sound.windows_listed (sound : w.Sound) :
    Mux.Tmux.windowsOfListing w.windowListing =
      w.windows.map fun window => (window.id, window.name) := by
  apply Mux.Tmux.windowsOfListing_of_prints
  · intro line member
    obtain ⟨window, present, rfl⟩ := List.mem_map.mp member
    exact sound.printable present
  · exact .inl (by rw [List.map_map]; rfl)

end World

namespace Mux.Tmux

variable (socket : Option String)

theorem ends_exec {c : Command} {output : Output} {w' : World} {fs' : FileSystem}
    (answers : ∀ turn, w.respond turn fs (.ofCommand c) = (.ok output, w', fs')) :
    Ends (Tmux.exec c : Result Scene Output).run course w fs (.ok output) w' fs' :=
  Ends.lift_bind (Act.ends_exec answers) (tells_ok _)

/-- The ids and names of all windows are told, also where no server runs. -/
theorem windows_tells (sound : w.Sound) :
    Tells (windows socket : Result Scene _).run course w fs
      (.ok (w.windows.map fun window => (window.id, window.name))) := by
  have answers : ∀ turn, w.respond turn fs (.ofCommand (listCommand socket)) =
      (if w.running then .done w.windowListing else .failed "no server running on /tmp/tmux",
        w, fs) := by
    intro turn
    cases socket <;> rfl
  unfold windows
  cases runs : w.running with
  | true =>
    simp only [runs, ↓reduceIte] at answers
    refine (ends_exec answers).andThen ?_
    rw [← sound.windows_listed]
    exact tells_ok _
  | false =>
    simp only [runs, Bool.false_eq_true, ↓reduceIte] at answers
    have none : w.windows = [] := by
      simpa [running] using (Bool.or_eq_false_iff.mp runs).2
    refine (ends_exec answers).andThen ?_
    rw [none]
    exact tells_ok _

theorem windowIds_tells (sound : w.Sound) (name : String) :
    Tells (windowIds socket name : Result Scene _).run course w fs
      (.ok ((w.windows.filter (·.name = name)).map (·.id))) := by
  refine (windows_tells socket sound).andThen ?_
  rw [List.filter_map, List.map_map]
  exact tells_ok _

theorem isRunning_tells :
    Tells (isRunning socket : Result Scene Bool).run course w fs (.ok w.running) := by
  have answers : ∀ turn, w.respond turn fs (.ofCommand
      (command socket ["list-sessions", "-F", "#\x7bsession_name\x7d"])) =
        (.verdict w.running, w, fs) := by
    intro turn
    cases socket <;> rfl
  unfold isRunning
  refine Ends.lift_bind (Act.ends_exec answers) ?_
  cases w.running with
  | true => exact tells_ok _
  | false => exact tells_ok _

/-- A command that has to succeed gives its output, or else an error. -/
theorem run_leads {operation : String} {c : Command}
    {post : Except Error Output → World → FileSystem → Prop}
    (holds : ∀ turn answer w' fs', w.respond turn fs (.ofCommand c) = (answer, w', fs') →
      (∀ output, answer = .ok output → output.success = true → post (.ok output) w' fs') ∧
        (answer.succeeded = false → ∀ e, post (.error e) w' fs')) :
    Leads (run operation c : Result Scene Output).run course w fs post := by
  have executed : Leads (Act.exec c : Act Scene Reply) course w fs fun reply w' fs' =>
      (∀ output, reply = .ok output → output.success = true → post (.ok output) w' fs') ∧
        ((∀ output, reply = .ok output → output.success = false) →
          ∀ e, post (.error e) w' fs') := by
    apply leads_exec
    intro n
    cases responds : w.respond (course n) fs (.ofCommand c) with
    | mk answer after =>
      obtain ⟨good, bad⟩ := holds (course n) answer after.1 after.2 responds
      cases answer with
      | error e => exact ⟨fun output same => (nomatch same), fun _ => bad rfl⟩
      | ok output =>
        refine ⟨fun output' same success => ?_, fun none_succeeds => bad (none_succeeds output rfl)⟩
        cases same
        exact good output rfl success
  unfold run exec
  rw [bind_assoc]
  apply executed.lift_bind
  intro reply w' fs' both
  cases reply with
  | error e => exact leads_error (both.2 (fun output same => (nomatch same)) _)
  | ok output =>
    refine Ends.andThen (tells_ok output) ?_
    cases success : output.success with
    | true => exact leads_ok (both.1 output rfl success)
    | false =>
      have bad := both.2 fun output' same => by
        cases same
        exact success
      simp only [Bool.false_eq_true, ↓reduceIte]
      split
      · exact leads_error (bad _)
      · exact leads_error (bad _)

theorem run_ends {operation : String} {c : Command} {stdout : String} {w' : World}
    {fs' : FileSystem}
    (answers : ∀ turn, w.respond turn fs (.ofCommand c) = (.done stdout, w', fs')) :
    Ends (run operation c : Result Scene Output).run course w fs (.ok { stdout }) w' fs' := by
  apply run_leads
  intro turn answer world files responds
  rw [answers turn] at responds
  cases responds
  refine ⟨fun output same _ => ?_, fun failed => nomatch failed⟩
  cases same
  exact ⟨rfl, rfl, rfl⟩

/-- A command that does what it is to do, or fails and changes nothing. -/
theorem run_either {operation : String} {c : Command}
    {post : Except Error Output → World → FileSystem → Prop}
    (answers : ∀ turn,
      (∃ stdout w' fs', w.respond turn fs (.ofCommand c) = (.done stdout, w', fs') ∧
        post (.ok { stdout }) w' fs') ∨
      ∃ answer : Answer, w.respond turn fs (.ofCommand c) = (answer, w, fs) ∧
        answer.succeeded = false)
    (failed : ∀ e, post (.error e) w fs) :
    Leads (run operation c : Result Scene Output).run course w fs post := by
  apply run_leads
  intro turn answer world files responds
  rcases answers turn with ⟨stdout, w', fs', done, holds⟩ | ⟨given, fails, unsuccessful⟩
  · cases done.symm.trans responds
    refine ⟨fun output same _ => ?_, fun failed => nomatch failed⟩
    cases same
    exact holds
  · cases fails.symm.trans responds
    refine ⟨fun output same success => ?_, fun _ => failed⟩
    rw [same] at unsuccessful
    exact absurd success (Bool.eq_false_iff.mp unsuccessful)

/-- A command that changes nothing, however it is answered. -/
theorem run_unchanged {operation : String} {c : Command}
    (answers : ∀ turn, (w.respond turn fs (.ofCommand c)).2 = (w, fs)) :
    Leads (run operation c : Result Scene Output).run course w fs
      fun _ w' fs' => w' = w ∧ fs' = fs := by
  apply run_leads
  intro turn answer w' fs' responds
  have same := answers turn
  rw [responds] at same
  cases same
  exact ⟨fun _ _ _ => ⟨rfl, rfl⟩, fun _ _ => ⟨rfl, rfl⟩⟩

theorem sendText_leads (pane text : String) :
    Leads (sendText socket pane text : Result Scene Unit).run course w fs
      fun _ w' fs' => w' = w ∧ fs' = fs := by
  unfold sendText
  refine (run_unchanged fun turn => ?_).andThen (fun _ w' fs' same => ?_) fun _ _ _ same => same
  · cases socket <;> rfl
  obtain ⟨rfl, rfl⟩ := same
  refine (run_unchanged fun turn => ?_).andThen (fun _ w' fs' same => ?_) fun _ _ _ same => same
  · cases socket <;> rfl
  · exact leads_ok same

theorem panesOf_leads (ids : List String) :
    Leads (panesOf socket ids : Result Scene _).run course w fs
      fun _ w' fs' => w' = w ∧ fs' = fs := by
  induction ids with
  | nil => exact leads_ok ⟨rfl, rfl⟩
  | cons id rest ih =>
    unfold panesOf
    refine (run_unchanged fun turn => ?_).andThen (fun _ w' fs' same => ?_) fun _ _ _ same => same
    · cases socket <;> rfl
    obtain ⟨rfl, rfl⟩ := same
    exact ih.andThen (fun _ _ _ same => leads_ok same) fun _ _ _ same => same

theorem listPanes_leads (sound : w.Sound) (name : String) :
    Leads (listPanes socket name : Result Scene _).run course w fs
      fun _ w' fs' => w' = w ∧ fs' = fs :=
  (windowIds_tells socket sound name).andThen (panesOf_leads socket _)

end Mux.Tmux

namespace Multiplexer

variable {m : Multiplexer}

/-- A multiplexer that is tmux does as tmux does. -/
theorem eq_of_tmux (tmux : m.kind = .tmux) : m = { m with kind := .tmux } := by
  rw [← tmux]

theorem isRunning_tells (tmux : m.kind = .tmux) :
    Tells (m.isRunning : Mux.Result Scene Bool).run course w fs (.ok w.running) := by
  rw [eq_of_tmux tmux]
  exact Mux.Tmux.isRunning_tells m.socket

theorem windowExists_tells (tmux : m.kind = .tmux) (sound : w.Sound) (name : String) :
    Tells (m.windowExists name : Mux.Result Scene Bool).run course w fs
      (.ok (decide (name ∈ w.windows.map (·.name)))) := by
  have lists : Tells (m.listWindows : Mux.Result Scene _).run course w fs
      (.ok (w.windows.map (·.name))) := by
    rw [eq_of_tmux tmux]
    refine (Mux.Tmux.windows_tells m.socket sound).andThen ?_
    rw [List.map_map]
    exact tells_ok _
  refine lists.andThen ?_
  rw [List.contains_eq_mem]
  exact tells_ok _

theorem sendText_leads (tmux : m.kind = .tmux) (pane text : String) :
    Leads (m.sendText pane text : Mux.Result Scene Unit).run course w fs
      fun _ w' fs' => w' = w ∧ fs' = fs := by
  rw [eq_of_tmux tmux]
  exact Mux.Tmux.sendText_leads m.socket pane text

theorem listPanes_leads (tmux : m.kind = .tmux) (sound : w.Sound) (name : String) :
    Leads (m.listPanes name : Mux.Result Scene _).run course w fs
      fun _ w' fs' => w' = w ∧ fs' = fs := by
  rw [eq_of_tmux tmux]
  exact Mux.Tmux.listPanes_leads m.socket sound name

end Multiplexer

end Worktop

import Worktop.Proofs.Commands
import Worktop.Proofs.Text.Lines
import Worktop.Proofs.Worktree.Listing

/-! # Warrants for destructive commands

A destructive command that an operation on a branch runs has to be justified by what came back from
the commands before it (`Worktop.Warranted`). Warrants only look back, so the events of acts that
are justified one by one are justified together (`Worktop.Justified.append`). The few acts that take
something away justify each of their commands by their own look-up.
-/

namespace Worktop

namespace Event

/-- The latest reply to a command of some kind, among events, latest first. -/
def latestReply? (asks : Command → Bool) : List Event → Option Reply
  | [] => none
  | .ran command reply :: before =>
    if asks command then some reply else latestReply? asks before
  | _ :: before => latestReply? asks before

variable {asks : Command → Bool}

theorem latestReply?_ran_of_asks {command : Command} (yes : asks command = true) (reply : Reply)
    (before : List Event) : latestReply? asks (.ran command reply :: before) = some reply := by
  rw [latestReply?, yes]
  rfl

theorem latestReply?_ran_of_not_asks {command : Command} (no : asks command = false) (reply : Reply)
    (before : List Event) :
    latestReply? asks (.ran command reply :: before) = latestReply? asks before := by
  rw [latestReply?, no]
  rfl

theorem latestReply?_append {new : List Event} {reply : Reply}
    (found : latestReply? asks new = some reply) (old : List Event) :
    latestReply? asks (new ++ old) = some reply := by
  induction new with
  | nil => cases found
  | cons event new ih =>
    cases event with
    | ran command answer =>
      cases asked : asks command with
      | true =>
        rw [latestReply?_ran_of_asks asked] at found
        rw [List.cons_append, latestReply?_ran_of_asks asked, found]
      | false =>
        rw [latestReply?_ran_of_not_asks asked] at found
        rw [List.cons_append, latestReply?_ran_of_not_asks asked, ih found]
    | _ => exact ih found

/-- What is said of every command by the events before it is said event by event. -/
theorem forall_ran_cons {holds : List Event → Command → Prop} {event : Event} {events : List Event}
    (first : ∀ command reply, event = .ran command reply → holds events command)
    (rest : ∀ newer command reply older, events = newer ++ .ran command reply :: older →
      holds older command) (newer : List Event) (command : Command) (reply : Reply)
    (older : List Event) (same : event :: events = newer ++ .ran command reply :: older) :
    holds older command := by
  cases newer with
  | nil =>
    obtain ⟨ran, rfl⟩ := List.cons.inj same
    exact first command reply ran
  | cons _ newer => exact rest newer command reply older (List.cons.inj same).2

end Event

namespace Command

/-- A listing of the windows of tmux. -/
def listsWindows (c : Command) : Bool :=
  c.program = "tmux" && c.words.head? = some "list-windows"

/-- A listing of the panes of WezTerm. -/
def listsPanes (c : Command) : Bool :=
  c.program = "wezterm" && c.words.head? = some "list"

/-- A listing of the worktrees of a repository. -/
def listsWorktrees (c : Command) : Bool :=
  c.program = "git" && c.words.take 2 = ["worktree", "list"]

theorem listsWindows_tmux (socket : Option String) {verb : String} (rest : List String)
    (plain : verb ≠ "-L") :
    (Mux.Tmux.command socket (verb :: rest)).listsWindows = decide (verb = "list-windows") := by
  simp [listsWindows, plain]

theorem listsPanes_wezterm (verb : String) (rest : List String) :
    (Mux.Wezterm.command (verb :: rest)).listsPanes = decide (verb = "list") := by
  simp [listsPanes]

theorem listsWorktrees_git (directory : String) (args : List String) :
    (Worktree.git directory args).listsWorktrees = decide (args.take 2 = ["worktree", "list"]) := by
  simp [listsWorktrees]

end Command

open Event (latestReply?)

/-- The latest listing of windows has a line for a window of this id and name. -/
def WindowListed (before : List Event) (id name : String) : Prop :=
  ∃ output, latestReply? Command.listsWindows before = some (.ok output) ∧ output.success ∧
    '\t' ∉ id.toList ∧ id ++ "\t" ++ name ∈ Text.lines output.stdout

/-- The latest listing of panes has this pane in a tab of this title. -/
def PaneListed (before : List Event) (pane title : String) : Prop :=
  ∃ output entries, latestReply? Command.listsPanes before = some (.ok output) ∧ output.success ∧
    Mux.PaneEntry.listOfText? output.stdout = some entries ∧
    ∃ entry ∈ entries, entry.title = title ∧ toString entry.pane = pane

/-- A new window of WezTerm was made in the worktree of the branch, and this is the pane that was
printed for it. -/
def PaneSpawned (setup : Setup) (branch : String) (before : List Event) (pane : String) : Prop :=
  ∃ output, output.success ∧ Mux.paneName? (Text.trim output.stdout) = some pane ∧
    .ran (Mux.Wezterm.command
      ["spawn", "--new-window", "--cwd", (setup.workspace branch).worktreePath])
        (.ok output) ∈ before

/-- The latest listing of worktrees has this entry, the first one with the branch checked out, and
another entry before it: the main worktree. -/
def WorktreeListed (before : List Event) (branch : String) (entry : Worktree.Entry) : Prop :=
  ∃ output main others, latestReply? Command.listsWorktrees before = some (.ok output) ∧
    output.success ∧ Worktree.entriesOfListing output.stdout = main :: others ∧
    main.branch ≠ some branch ∧ others.find? (·.branch = some branch) = some entry

/-- The command just before asked whether there is a branch of this name, and there was. -/
def BranchShown (before : List Event) (branch : String) : Prop :=
  ∃ command output earlier, before = .ran command (.ok output) :: earlier ∧ output.success ∧
    command.program = "git" ∧
    command.words = ["show-ref", "--quiet", "--verify", "refs/heads/" ++ branch]

/-- What justifies a command for the workspace of a branch, by the events before it; `adding` says
whether the workspace is just being added. A command that takes nothing away needs no
justification. -/
structure Warranted (setup : Setup) (branch : String) (adding : Prop) (before : List Event)
    (c : Command) : Prop where
  killWindow : c.program = "tmux" → ∀ args, c.words = "kill-window" :: args →
    ∃ id, args = ["-t", id] ∧ WindowListed before id (setup.workspace branch).windowName
  killPane : c.program = "wezterm" → ∀ args, c.words = "kill-pane" :: args →
    ∃ pane, args = ["--pane-id", pane] ∧
      (PaneListed before pane (setup.workspace branch).windowName ∨
        adding ∧ PaneSpawned setup branch before pane)
  removeWorktree : c.program = "git" → ∀ args, c.words = "worktree" :: "remove" :: args →
    ∃ entry, (args = [entry.path] ∨ args = ["--force", entry.path]) ∧
      WorktreeListed before branch entry
  prune : c.program = "git" → ∀ args, c.words = "worktree" :: "prune" :: args →
    ∃ entry earlier, before = .looked entry.path false :: earlier ∧
      WorktreeListed before branch entry
  deleteBranch : c.program = "git" → ∀ args, c.words = "branch" :: args →
    (args = ["-d", branch] ∨ args = ["-D", branch]) ∧ BranchShown before branch

/-- Every command among events, latest first, is justified by those before it. -/
def Justified (setup : Setup) (branch : String) (adding : Prop) (events : List Event) : Prop :=
  ∀ newer command reply older, events = newer ++ .ran command reply :: older →
    Warranted setup branch adding older command

variable {setup : Setup} {branch : String} {adding : Prop}

theorem WindowListed.append {before : List Event} {id name : String}
    (listed : WindowListed before id name) (old : List Event) :
    WindowListed (before ++ old) id name := by
  obtain ⟨output, latest, rest⟩ := listed
  exact ⟨output, Event.latestReply?_append latest old, rest⟩

theorem PaneListed.append {before : List Event} {pane title : String}
    (listed : PaneListed before pane title) (old : List Event) :
    PaneListed (before ++ old) pane title := by
  obtain ⟨output, entries, latest, rest⟩ := listed
  exact ⟨output, entries, Event.latestReply?_append latest old, rest⟩

theorem PaneSpawned.append {before : List Event} {pane : String}
    (spawned : PaneSpawned setup branch before pane) (old : List Event) :
    PaneSpawned setup branch (before ++ old) pane := by
  obtain ⟨output, success, printed, member⟩ := spawned
  exact ⟨output, success, printed, List.mem_append_left old member⟩

theorem WorktreeListed.append {before : List Event} {entry : Worktree.Entry}
    (listed : WorktreeListed before branch entry) (old : List Event) :
    WorktreeListed (before ++ old) branch entry := by
  obtain ⟨output, main, others, latest, rest⟩ := listed
  exact ⟨output, main, others, Event.latestReply?_append latest old, rest⟩

theorem WorktreeListed.looked {before : List Event} {entry : Worktree.Entry}
    (listed : WorktreeListed before branch entry) (path : String) (found : Bool) :
    WorktreeListed (.looked path found :: before) branch entry :=
  listed

theorem BranchShown.append {before : List Event} (shown : BranchShown before branch)
    (old : List Event) : BranchShown (before ++ old) branch := by
  obtain ⟨command, output, earlier, rfl, rest⟩ := shown
  exact ⟨command, output, earlier ++ old, rfl, rest⟩

/-- A warrant does not depend on what happened still earlier. -/
theorem Warranted.append {before : List Event} {c : Command}
    (warranted : Warranted setup branch adding before c) (old : List Event) :
    Warranted setup branch adding (before ++ old) c where
  killWindow tmux args same := by
    obtain ⟨id, shape, listed⟩ := warranted.killWindow tmux args same
    exact ⟨id, shape, listed.append old⟩
  killPane wezterm args same := by
    obtain ⟨pane, shape, listed | ⟨added, spawned⟩⟩ := warranted.killPane wezterm args same
    · exact ⟨pane, shape, .inl (listed.append old)⟩
    · exact ⟨pane, shape, .inr ⟨added, spawned.append old⟩⟩
  removeWorktree git args same := by
    obtain ⟨entry, shape, listed⟩ := warranted.removeWorktree git args same
    exact ⟨entry, shape, listed.append old⟩
  prune git args same := by
    obtain ⟨entry, earlier, rfl, listed⟩ := warranted.prune git args same
    exact ⟨entry, earlier ++ old, rfl, listed.append old⟩
  deleteBranch git args same := by
    obtain ⟨shape, shown⟩ := warranted.deleteBranch git args same
    exact ⟨shape, shown.append old⟩

theorem warranted_of_not_destructive {c : Command} (mild : ¬ c.Destructive) (before : List Event) :
    Warranted setup branch adding before c where
  killWindow tmux args same := (mild (.inl ⟨tmux, by rw [same]; rfl⟩)).elim
  killPane wezterm args same := (mild (.inr (.inl ⟨wezterm, by rw [same]; rfl⟩))).elim
  removeWorktree git args same := (mild (.inr (.inr ⟨git, .inl (by rw [same]; rfl)⟩))).elim
  prune git args same := (mild (.inr (.inr ⟨git, .inr (.inl (by rw [same]; rfl))⟩))).elim
  deleteBranch git args same := (mild (.inr (.inr ⟨git, .inr (.inr (by rw [same]; rfl))⟩))).elim

/-! ## Justified events -/

theorem justified_cons {event : Event} {events : List Event}
    (first : ∀ command reply, event = .ran command reply →
      Warranted setup branch adding events command)
    (rest : Justified setup branch adding events) :
    Justified setup branch adding (event :: events) :=
  Event.forall_ran_cons first rest

/-- Events that are justified in themselves are so after others that are. -/
theorem Justified.append {new old : List Event} (later : Justified setup branch adding new)
    (earlier : Justified setup branch adding old) : Justified setup branch adding (new ++ old) := by
  induction new with
  | nil => exact earlier
  | cons event new ih =>
    refine justified_cons ?_ (ih fun newer command reply older same =>
      later (event :: newer) command reply older (congrArg (event :: ·) same))
    intro command reply ran
    exact (later [] command reply new (by rw [ran]; rfl)).append old

/-- A command that is warranted may be run after justified events, whatever it is answered. -/
theorem Justified.ran {events : List Event} (justified : Justified setup branch adding events)
    {c : Command} (warranted : Warranted setup branch adding events c) (reply : Reply) :
    Justified setup branch adding (.ran c reply :: events) := by
  refine justified_cons ?_ justified
  intro _ _ same
  cases same
  exact warranted

theorem Justified.looked {events : List Event} (justified : Justified setup branch adding events)
    (path : String) (found : Bool) :
    Justified setup branch adding (.looked path found :: events) := by
  refine justified_cons ?_ justified
  intro _ _ same
  cases same

theorem justified_of_mild {events : List Event}
    (mild : Act.RunsOnly (fun command => ¬ command.Destructive) events) :
    Justified setup branch adding events := by
  intro newer command reply older same
  exact warranted_of_not_destructive
    (mild command reply (same ▸ List.mem_append_right newer List.mem_cons_self)) older

instance : Act.Composable (Justified setup branch adding) where
  quiet := fun silent => justified_of_mild fun command reply member =>
    (silent command reply member).elim
  append := .append

end Worktop

import Worktop.Proofs.Addition
import Worktop.Proofs.Roles

/-! # What must have come before

An addition makes the worktree, then the window, runs the hooks, splits the panes off, waits until
they are shown and types the commands into them. Each command of these has its place
(`Worktop.Lifecycle.Add.Timely`), which is told by the commands before it and what they were
answered. Events are in order (`Worktop.Lifecycle.Add.InOrder`) if each command among them was
timely; how far they have come is told in stages, from nothing but queries
(`Worktop.Lifecycle.Add.Clear`) to all panes being shown (`Worktop.Lifecycle.Add.Complete`).
-/

namespace Worktop

open Act
open Command (Idle)
open Event (ranAs)

namespace Lifecycle.Add

/-! ## When a command is timely -/

/-- The command that makes the window of a branch. -/
def windowCommand (setup : Setup) (branch : String) : Command :=
  setup.mux.windowCommand (setup.workspace branch).windowName (setup.workspace branch).worktreePath
    (setup.workspace branch).env

/-- The command of a hook in the worktree of a branch. -/
def hookCommand (setup : Setup) (branch hook : String) : Command where
  program := "/bin/sh"
  args := ["-c", hook]
  directory := some (setup.workspace branch).worktreePath
  env :=
    [("TIDYMUX_BRANCH", branch), ("TIDYMUX_WORKTREE", (setup.workspace branch).worktreePath)]

/-- git added the worktree of the branch. -/
def WorktreeAdded (setup : Setup) (branch : String) (history : List Event) : Prop :=
  ∃ reply : Reply, reply.Succeeded ∧
    .ran (setup.repository.git
      ["worktree", "add", "-b", branch, (setup.workspace branch).worktreePath]) reply ∈ history

/-- The window was made, and of the hooks just so many ran, in their order; all of them
succeeded. -/
structure HooksDone (setup : Setup) (branch : String) (config : Config) (count : Nat)
    (history : List Event) : Prop where
  opened : ∃ opening ∈ ranAs .window history, opening.2.Succeeded
  ran : (ranAs .hook history).map Prod.fst =
    (config.postCreate.take count).map (hookCommand setup branch)
  succeeded : ∀ done ∈ ranAs .hook history, done.2.Succeeded

/-- Just so many panes were to be split off, and all of them were. -/
structure SplitsDone (m : Multiplexer) (count : Nat) (history : List Event) : Prop where
  ran : (ranAs .split history).length = count
  succeeded : ∀ done ∈ ranAs .split history, (m.paneOfReply? done.2).isSome

/-- After the last split the panes were listed, and there were as many as had been made. -/
def PanesShown (setup : Setup) (branch : String) (history : List Event) : Prop :=
  ∃ newer listing older panes, history = newer ++ listing ++ older ∧ ranAs .split newer = [] ∧
    setup.mux.Listed (setup.workspace branch).windowName listing panes ∧
    1 + (ranAs .split history).length ≤ panes.length

/-- What must have come before a command, for each role that it may have. -/
structure Timely (setup : Setup) (branch : String) (config : Config) (before : List Event)
    (c : Command) : Prop where
  window : c.role? = some .window → WorktreeAdded setup branch before
  hook : c.role? = some .hook → ∃ index hook, config.postCreate[index]? = some hook ∧
    c = hookCommand setup branch hook ∧ HooksDone setup branch config index before ∧
    ranAs .split before = [] ∧ ranAs .send before = []
  split : c.role? = some .split →
    HooksDone setup branch config config.postCreate.length before ∧
    (∃ count, SplitsDone setup.mux count before) ∧ ranAs .send before = []
  send : c.role? = some .send →
    HooksDone setup branch config config.postCreate.length before ∧
    SplitsDone setup.mux config.splitCount before ∧ PanesShown setup branch before

/-- Every command among events, latest first, is timely after those before it. -/
def InOrder (setup : Setup) (branch : String) (config : Config) (events : List Event) : Prop :=
  ∀ newer c reply older, events = newer ++ .ran c reply :: older →
    Timely setup branch config older c

variable {setup : Setup} {branch : String} {config : Config} {old : List Event}

theorem timely_of_idle {c : Command} (idle : c.Idle) (before : List Event) :
    Timely setup branch config before c where
  window role := absurd role (idle.role_ne _)
  hook role := absurd role (idle.role_ne _)
  split role := absurd role (idle.role_ne _)
  send role := absurd role (idle.role_ne _)

theorem inOrder_nil : InOrder setup branch config [] := by
  intro newer c reply older same
  simp at same

theorem InOrder.cons {event : Event} (inOrder : InOrder setup branch config old)
    (timely : ∀ c reply, event = .ran c reply → Timely setup branch config old c) :
    InOrder setup branch config (event :: old) :=
  Event.forall_ran_cons timely inOrder

theorem InOrder.ran {c : Command} (inOrder : InOrder setup branch config old)
    (timely : Timely setup branch config old c) (reply : Reply) :
    InOrder setup branch config (.ran c reply :: old) := by
  refine inOrder.cons fun _ _ same => ?_
  cases same
  exact timely

theorem InOrder.idle {new : List Event} (inOrder : InOrder setup branch config old)
    (idle : RunsOnly Idle new) : InOrder setup branch config (new ++ old) := by
  induction new with
  | nil => exact inOrder
  | cons event new ih =>
    refine (ih fun c reply member => idle c reply (List.mem_cons_of_mem _ member)).cons ?_
    rintro c reply rfl
    exact timely_of_idle (idle c reply List.mem_cons_self) _

theorem role?_windowCommand (setup : Setup) (branch : String) :
    (windowCommand setup branch).role? = some .window :=
  setup.mux.role?_windowCommand _ _ _

theorem role?_hookCommand (setup : Setup) (branch hook : String) :
    (hookCommand setup branch hook).role? = some .hook := rfl

theorem HooksDone.ranAs_next {index : Nat} {hook : String}
    (done : HooksDone setup branch config index old)
    (there : config.postCreate[index]? = some hook) (reply : Reply) :
    (ranAs .hook (.ran (hookCommand setup branch hook) reply :: old)).map Prod.fst =
      (config.postCreate.take (index + 1)).map (hookCommand setup branch) := by
  rw [Event.ranAs_cons_of_role rfl, List.take_add_one, there, List.map_append, List.map_append,
    done.ran]
  rfl

/-- The hooks that are run in order are the first ones of the configuration. -/
theorem InOrder.hooks {events : List Event} (inOrder : InOrder setup branch config events) :
    (ranAs .hook events).map Prod.fst <+: config.postCreate.map (hookCommand setup branch) := by
  induction events with
  | nil => exact List.nil_prefix
  | cons event older ih =>
    have earlier := ih fun newer c reply older same =>
      inOrder (event :: newer) c reply older (congrArg (event :: ·) same)
    cases event with
    | ran c reply =>
      by_cases role : c.role? = some .hook
      · obtain ⟨index, hook, there, rfl, done, -⟩ := (inOrder [] c reply older rfl).hook role
        rw [done.ranAs_next there]
        exact (List.take_prefix _ _).map _
      · rw [Event.ranAs_cons_of_other role]
        exact earlier
    | _ => exact earlier

/-! ## What follows a failure -/

/-- A hook that failed, or a split that made no pane. -/
def Fatal (m : Multiplexer) (c : Command) (reply : Reply) : Prop :=
  c.role? = some .hook ∧ ¬ reply.Succeeded ∨
    c.role? = some .split ∧ m.paneOfReply? reply = none

theorem HooksDone.not_fatal {m : Multiplexer} {count : Nat} {c : Command} {reply : Reply}
    (done : HooksDone setup branch config count old)
    (splits : ∀ split ∈ ranAs .split old, (m.paneOfReply? split.2).isSome)
    (member : .ran c reply ∈ old) : ¬ Fatal m c reply := by
  rintro (⟨role, failed⟩ | ⟨role, none⟩)
  · exact failed (done.succeeded _ (Event.mem_ranAs role member))
  · have made := splits _ (Event.mem_ranAs role member)
    rw [none] at made
    cases made

/-- After a hook that failed, or a split that made no pane, there are no hooks, splits or texts. -/
theorem InOrder.stops {newer older : List Event} {c : Command} {reply : Reply}
    (inOrder : InOrder setup branch config (newer ++ .ran c reply :: older))
    (fatal : Fatal setup.mux c reply) :
    RunsOnly (fun later => ∀ role ∈ [Role.hook, .split, .send], later.role? ≠ some role) newer := by
  intro later reply' member role among same
  obtain ⟨front, back, rfl⟩ := List.mem_iff_append.mp member
  rw [List.append_assoc, List.cons_append] at inOrder
  have timely := inOrder _ _ _ _ rfl
  have there : .ran c reply ∈ back ++ .ran c reply :: older := by simp
  simp only [List.mem_cons, List.not_mem_nil, or_false] at among
  rcases among with rfl | rfl | rfl
  · obtain ⟨index, hook, -, -, done, unsplit, -⟩ := timely.hook same
    refine done.not_fatal ?_ there fatal
    rw [unsplit]
    exact fun _ member => absurd member List.not_mem_nil
  · obtain ⟨done, ⟨count, splits⟩, -⟩ := timely.split same
    exact done.not_fatal splits.succeeded there fatal
  · obtain ⟨done, splits, -⟩ := timely.send same
    exact done.not_fatal splits.succeeded there fatal

/-! ## Stages -/

/-- Nothing but queries was run. -/
structure Clear (setup : Setup) (branch : String) (config : Config) (history : List Event) :
    Prop where
  inOrder : InOrder setup branch config history
  roleless : ∀ role, ranAs role history = []

/-- The worktree is there, and nothing else was made for the branch. -/
structure Housed (setup : Setup) (branch : String) (config : Config) (progress : Progress)
    (history : List Event) : Prop where
  clear : Clear setup branch config history
  added : WorktreeAdded setup branch history
  panes : progress.created.filterMap Resource.pane? = []

/-- The window is there, and so many hooks and splits are done. -/
structure Reached (setup : Setup) (branch : String) (config : Config) (hooks splits : Nat)
    (progress : Progress) (history : List Event) : Prop where
  inOrder : InOrder setup branch config history
  hooksDone : HooksDone setup branch config hooks history
  splitsDone : SplitsDone setup.mux splits history
  unsent : ranAs .send history = []
  panes : (progress.created.filterMap Resource.pane?).length = 1 + splits

/-- Everything is there for texts to be typed. -/
structure Complete (setup : Setup) (branch : String) (config : Config) (history : List Event) :
    Prop where
  inOrder : InOrder setup branch config history
  hooksDone : HooksDone setup branch config config.postCreate.length history
  splitsDone : SplitsDone setup.mux config.splitCount history
  shown : PanesShown setup branch history

theorem WorktreeAdded.mono {more : List Event} (added : WorktreeAdded setup branch old)
    (subset : old ⊆ more) : WorktreeAdded setup branch more := by
  obtain ⟨reply, success, member⟩ := added
  exact ⟨reply, success, subset member⟩

theorem HooksDone.append {count : Nat} {new : List Event}
    (done : HooksDone setup branch config count old)
    (other : RunsOnly (·.role? ≠ some .hook) new) :
    HooksDone setup branch config count (new ++ old) := by
  have same := Event.ranAs_append_of_other other old
  obtain ⟨opening, member, success⟩ := done.opened
  refine ⟨⟨opening, ?_, success⟩, ?_, ?_⟩
  · rw [Event.ranAs_append]
    exact List.mem_append_left _ member
  · rw [same]
    exact done.ran
  · rw [same]
    exact done.succeeded

theorem SplitsDone.append {m : Multiplexer} {count : Nat} {new : List Event}
    (done : SplitsDone m count old) (other : RunsOnly (·.role? ≠ some .split) new) :
    SplitsDone m count (new ++ old) := by
  have same := Event.ranAs_append_of_other other old
  exact ⟨by rw [same]; exact done.ran, by rw [same]; exact done.succeeded⟩

theorem PanesShown.append {new : List Event} (shown : PanesShown setup branch old)
    (other : RunsOnly (·.role? ≠ some .split) new) : PanesShown setup branch (new ++ old) := by
  obtain ⟨newer, listing, older, panes, rfl, unsplit, listed, enough⟩ := shown
  refine ⟨new ++ newer, listing, older, panes, by simp, ?_, listed, ?_⟩
  · rw [Event.ranAs_append_of_other other, unsplit]
  · rw [Event.ranAs_append_of_other other]
    exact enough

/-! ### Before the window -/

theorem clear_nil : Clear setup branch config [] := ⟨inOrder_nil, fun _ => rfl⟩

theorem Clear.ranAs_next {c : Command} {role : Role} (clear : Clear setup branch config old)
    (other : c.role? ≠ some role) (reply : Reply) : ranAs role (.ran c reply :: old) = [] := by
  rw [Event.ranAs_cons_of_other other]
  exact clear.roleless role

theorem Clear.idle {new : List Event} (clear : Clear setup branch config old)
    (idle : RunsOnly Idle new) : Clear setup branch config (new ++ old) where
  inOrder := clear.inOrder.idle idle
  roleless role := by
    rw [Event.ranAs_append_of_idle idle]
    exact clear.roleless role

theorem Housed.idle {progress : Progress} {new : List Event}
    (housed : Housed setup branch config progress old) (idle : RunsOnly Idle new) :
    Housed setup branch config progress (new ++ old) where
  clear := housed.clear.idle idle
  added := housed.added.mono (List.subset_append_right new old)
  panes := housed.panes

theorem Housed.timely_window {progress : Progress} {c : Command}
    (housed : Housed setup branch config progress old) (opens : c.role? = some .window) :
    Timely setup branch config old c where
  window _ := housed.added
  hook other := by simp [opens] at other
  split other := by simp [opens] at other
  send other := by simp [opens] at other

/-- The window is the first of all that is made for the branch beside its worktree. -/
theorem Housed.opened {progress : Progress} {c : Command} {reply : Reply}
    (housed : Housed setup branch config progress old) (opens : c.role? = some .window)
    (success : reply.Succeeded) (window pane : String) :
    Reached setup branch config 0 0
      { progress with created := progress.created ++ [.window window] ++ [.pane window pane] }
      (.ran c reply :: old) where
  inOrder := housed.clear.inOrder.ran (housed.timely_window opens) reply
  hooksDone := by
    have none : ranAs .hook (.ran c reply :: old) = [] :=
      housed.clear.ranAs_next (by simp [opens]) reply
    refine ⟨⟨(c, reply), ?_, success⟩, ?_, ?_⟩
    · rw [Event.ranAs_cons_of_role opens]
      exact List.mem_append_right _ List.mem_cons_self
    · rw [none]
      rfl
    · rw [none]
      exact fun _ member => absurd member List.not_mem_nil
  splitsDone := by
    have none : ranAs .split (.ran c reply :: old) = [] :=
      housed.clear.ranAs_next (by simp [opens]) reply
    refine ⟨by rw [none]; rfl, ?_⟩
    rw [none]
    exact fun _ member => absurd member List.not_mem_nil
  unsent := housed.clear.ranAs_next (by simp [opens]) reply
  panes := by
    simp only [List.filterMap_append, housed.panes]
    rfl

/-! ### Hooks and splits -/

theorem Reached.idle {hooks splits : Nat} {progress : Progress} {new : List Event}
    (reached : Reached setup branch config hooks splits progress old) (idle : RunsOnly Idle new) :
    Reached setup branch config hooks splits progress (new ++ old) where
  inOrder := reached.inOrder.idle idle
  hooksDone := reached.hooksDone.append (idle.imp fun _ idle => idle.role_ne _)
  splitsDone := reached.splitsDone.append (idle.imp fun _ idle => idle.role_ne _)
  unsent := by
    rw [Event.ranAs_append_of_idle idle]
    exact reached.unsent
  panes := reached.panes

theorem HooksDone.next {index : Nat} {hook : String}
    (done : HooksDone setup branch config index old)
    (there : config.postCreate[index]? = some hook) {reply : Reply} (success : reply.Succeeded) :
    HooksDone setup branch config (index + 1)
      (.ran (hookCommand setup branch hook) reply :: old) where
  opened := by
    rw [Event.ranAs_cons_of_other (by simp [role?_hookCommand])]
    exact done.opened
  ran := done.ranAs_next there reply
  succeeded := by
    rw [Event.ranAs_cons_of_role rfl]
    intro ran member
    rcases List.mem_append.mp member with earlier | last
    · exact done.succeeded ran earlier
    · exact List.mem_singleton.mp last ▸ success

theorem HooksDone.all {count : Nat} (done : HooksDone setup branch config count old)
    (enough : config.postCreate.length ≤ count) :
    HooksDone setup branch config config.postCreate.length old where
  opened := done.opened
  ran := by rw [done.ran, List.take_of_length_le enough, List.take_length]
  succeeded := done.succeeded

theorem SplitsDone.next {m : Multiplexer} {count : Nat} (done : SplitsDone m count old)
    {c : Command} (role : c.role? = some .split) {reply : Reply}
    (made : (m.paneOfReply? reply).isSome) : SplitsDone m (count + 1) (.ran c reply :: old) where
  ran := by
    rw [Event.ranAs_cons_of_role role, List.length_append, done.ran]
    rfl
  succeeded := by
    rw [Event.ranAs_cons_of_role role]
    intro ran member
    rcases List.mem_append.mp member with earlier | last
    · exact done.succeeded ran earlier
    · exact List.mem_singleton.mp last ▸ made

theorem Reached.timely_hook {index : Nat} {hook : String} {progress : Progress}
    (reached : Reached setup branch config index 0 progress old)
    (there : config.postCreate[index]? = some hook) :
    Timely setup branch config old (hookCommand setup branch hook) where
  window := nofun
  hook _ := ⟨index, hook, there, rfl, reached.hooksDone,
    List.eq_nil_of_length_eq_zero reached.splitsDone.ran, reached.unsent⟩
  split := nofun
  send := nofun

theorem Reached.hook {index : Nat} {hook : String} {progress : Progress}
    (reached : Reached setup branch config index 0 progress old)
    (there : config.postCreate[index]? = some hook) {reply : Reply} (success : reply.Succeeded) :
    Reached setup branch config (index + 1) 0 progress
      (.ran (hookCommand setup branch hook) reply :: old) where
  inOrder := reached.inOrder.ran (reached.timely_hook there) reply
  hooksDone := reached.hooksDone.next there success
  splitsDone := ⟨reached.splitsDone.ran, reached.splitsDone.succeeded⟩
  unsent := by
    rw [Event.ranAs_cons_of_other (by simp [role?_hookCommand])]
    exact reached.unsent
  panes := reached.panes

theorem Reached.timely_split {splits : Nat} {progress : Progress}
    (reached : Reached setup branch config config.postCreate.length splits progress old)
    {c : Command} (role : c.role? = some .split) : Timely setup branch config old c where
  window other := by simp [role] at other
  hook other := by simp [role] at other
  split _ := ⟨reached.hooksDone, ⟨splits, reached.splitsDone⟩, reached.unsent⟩
  send other := by simp [role] at other

theorem Reached.split {splits : Nat} {progress : Progress}
    (reached : Reached setup branch config config.postCreate.length splits progress old)
    {c : Command} (role : c.role? = some .split) {reply : Reply}
    (made : (setup.mux.paneOfReply? reply).isSome) (window pane : String) :
    Reached setup branch config config.postCreate.length (splits + 1)
      { progress with created := progress.created ++ [.pane window pane] }
      (.ran c reply :: old) where
  inOrder := reached.inOrder.ran (reached.timely_split role) reply
  hooksDone := reached.hooksDone.append (runsOnly_ran (by simp [role]) reply)
  splitsDone := reached.splitsDone.next role made
  unsent := by
    rw [Event.ranAs_cons_of_other (by simp [role])]
    exact reached.unsent
  panes := by
    rw [List.filterMap_append, List.length_append, reached.panes]
    rfl

/-! ### Texts -/

/-- Panes that were listed after the last split are shown if there are as many as were made. -/
theorem Reached.complete {progress : Progress} {listing : List Event} {panes : List String}
    (reached : Reached setup branch config config.postCreate.length config.splitCount progress old)
    (idle : RunsOnly Idle listing)
    (listed : setup.mux.Listed (setup.workspace branch).windowName listing panes)
    (enough : 1 + config.splitCount ≤ panes.length) :
    Complete setup branch config (listing ++ old) where
  inOrder := reached.inOrder.idle idle
  hooksDone := (reached.idle idle).hooksDone
  splitsDone := (reached.idle idle).splitsDone
  shown := by
    refine ⟨[], listing, old, panes, rfl, rfl, listed, ?_⟩
    rw [(reached.idle idle).splitsDone.ran]
    exact enough

theorem Complete.timely {c : Command} (complete : Complete setup branch config old)
    (role : c.role? = some .send) : Timely setup branch config old c where
  window other := by simp [role] at other
  hook other := by simp [role] at other
  split other := by simp [role] at other
  send _ := ⟨complete.hooksDone, complete.splitsDone, complete.shown⟩

/-- Once everything is there, it stays so however many texts are typed. -/
theorem Complete.append {new : List Event} (complete : Complete setup branch config old)
    (sends : RunsOnly (fun c => c.role? = some .send ∨ c.Idle) new) :
    Complete setup branch config (new ++ old) := by
  induction new with
  | nil => exact complete
  | cons event new ih =>
    have earlier := ih fun c reply member => sends c reply (List.mem_cons_of_mem _ member)
    have other : ∀ role, role ≠ .send → RunsOnly (·.role? ≠ some role) [event] := by
      intro role different c reply member
      rcases sends c reply (List.mem_append_left new member) with send | idle
      · rw [send]
        exact fun same => different (Option.some.inj same).symm
      · exact idle.role_ne role
    refine ⟨earlier.inOrder.cons ?_, earlier.hooksDone.append (other _ nofun),
      earlier.splitsDone.append (other _ nofun), earlier.shown.append (other _ nofun)⟩
    rintro c reply rfl
    rcases sends c reply List.mem_cons_self with send | idle
    · exact earlier.timely send
    · exact timely_of_idle idle _

end Lifecycle.Add

end Worktop

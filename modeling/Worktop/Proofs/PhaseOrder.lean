import Worktop.Proofs.ForcedDeletion
import Worktop.Proofs.Histories
import Worktop.Proofs.Rejection
import Worktop.Proofs.Timely

/-! # The order of an addition

Each part of an addition takes a history from one stage to the next, or leaves one that is in order
where it fails, and what is done after that does nothing for the workspace. So whatever an addition
has run by any time is in order. Main statement: `Worktop.Lifecycle.add_in_order`.
-/

namespace Worktop

open Act hiding gives_lift_bind
open Command (Idle)
open Event (ranAs)

variable {ω α : Type}

namespace Lifecycle.Add

open Adding (carries_attempt carries_lift carries_modify carries_pure)

variable {setup : Setup} {branch : String} {config : Config} {old : List Event}

/-! ## Worktree and window -/

theorem createWorktree_carries :
    Adding.Carries (createWorktree setup branch : Adding ω String)
      (fun progress history => progress = {} ∧ Clear setup branch config history)
      (fun path progress history => path = (setup.workspace branch).worktreePath ∧
        Housed setup branch config progress history)
      (InOrder setup branch config) := by
  intro progress old given
  obtain ⟨rfl, clear⟩ := given
  have idle : Within Idle (setup.repository.create branch : Worktree.Result ω String).run :=
    Repository.create_within (Command.idle_git _ _) (Command.idle_git _ _) (Command.idle_git _ _)
  have asks : Within Idle (setup.repository.branchExists branch : Worktree.Result ω Bool).run :=
    Repository.branchExists_within (Command.idle_git _ _)
  unfold createWorktree
  refine Adding.emits_lift_bind
    ((Repository.create_emits.and idle.only).gives (Repository.create_path branch)) ?_
  intro result new given
  obtain ⟨⟨made, idle⟩, named⟩ := given
  cases result with
  | ok path =>
    refine Adding.emits_made_bind (Adding.emits_made_bind (Adding.emits_pure ?_))
    obtain rfl := named path rfl
    have added : WorktreeAdded setup branch new := by
      rcases made with ⟨reply, earlier, rfl, -, told⟩ | ⟨_, -, same⟩ | ⟨-, _, same, -⟩
      · exact ⟨reply, told.mp rfl, List.mem_cons_self⟩
      · cases same
      · cases same
    exact ⟨rfl, clear.idle idle, added.mono (List.subset_append_left new old), rfl⟩
  | error e =>
    apply Adding.emits_lift_bind asks.only
    intro left newer idle'
    have inOrder : InOrder setup branch config (newer ++ new ++ old) := by
      rw [List.append_assoc]
      exact (clear.inOrder.idle idle).idle idle'
    dsimp only
    split
    · exact Adding.emits_throw inOrder
    · exact Adding.emits_made_bind (Adding.emits_throw inOrder)
    · exact Adding.emits_throw inOrder

theorem createWindow_carries :
    Adding.Carries (createWindow setup (setup.workspace branch)
        (setup.workspace branch).worktreePath : Adding ω Mux.Window)
      (Housed setup branch config)
      (fun window progress history => Reached setup branch config 0 0 progress history ∧
        window.name = (setup.workspace branch).windowName)
      (InOrder setup branch config) := by
  intro progress old housed
  have opening := (setup.mux.createWindow_opening (setup.workspace branch).windowName
    (setup.workspace branch).worktreePath (setup.workspace branch).env (ω := ω)).gives
      (setup.mux.createWindow_name _ _ _)
  have opens := role?_windowCommand setup branch
  unfold createWindow
  refine Adding.emits_attempt_bind opening ?_ ?_
  · intro window first given
    obtain ⟨opening, named⟩ := given
    refine Adding.emits_made_bind (Adding.emits_made_bind (Adding.emits_pure ?_))
    refine ⟨?_, named window rfl⟩
    cases opening with
    | @opened newer older reply _ later earlier told =>
      have success : reply.Succeeded := Multiplexer.succeeded_of_firstPane (told window rfl)
      rw [List.nil_append, List.append_assoc newer]
      exact ((housed.idle earlier).opened opens success window.name window.pane).idle later
  · intro e first given
    obtain ⟨opening, -⟩ := given
    cases opening with
    | unopened idle e => exact (housed.idle idle).clear.inOrder
    | @opened newer older reply _ later earlier told =>
      have before := housed.idle earlier
      rw [List.append_assoc]
      exact (before.clear.inOrder.ran (before.timely_window opens) reply).idle later

/-! ## Hooks -/

theorem runFrom_carries (progress : Progress) {hooks : List String} {index : Nat}
    (left : config.postCreate.drop index = hooks) :
    Carries (Hook.runFrom (setup.workspace branch).worktreePath (setup.workspace branch).env index
        hooks : ExceptT Hook.Error (Act ω) (List Hook.Step))
      (Reached setup branch config index 0 progress)
      (fun _ => Reached setup branch config config.postCreate.length 0 progress)
      (InOrder setup branch config) := by
  induction hooks generalizing index with
  | nil =>
    have enough := List.drop_eq_nil_iff.mp left
    exact carries_ok fun old reached => { reached with hooksDone := reached.hooksDone.all enough }
  | cons hook rest ih =>
    have there : config.postCreate[index]? = some hook := by
      rw [← Nat.add_zero index, ← List.getElem?_drop, left]
      rfl
    have left' : config.postCreate.drop (index + 1) = rest := by
      rw [← List.tail_drop, left]
      rfl
    -- The hook is timely whatever comes of it, but only one that succeeded counts as done.
    let between (reply : Reply) (history : List Event) : Prop :=
      InOrder setup branch config history ∧
        (reply.Succeeded → Reached setup branch config (index + 1) 0 progress history)
    have ran : ∀ reply old, Reached setup branch config index 0 progress old →
        between reply (.ran (hookCommand setup branch hook) reply :: old) :=
      fun reply old reached =>
        ⟨reached.inOrder.ran (reached.timely_hook there) reply, reached.hook there⟩
    unfold Hook.runFrom
    apply carries_reply ran
    intro reply
    cases reply with
    | error e => exact carries_error fun old holds => holds.1
    | ok output =>
      dsimp only
      split
      · rename_i success
        have next : ∀ old, between (.ok output) old →
            Reached setup branch config (index + 1) 0 progress old :=
          fun old holds => holds.2 ⟨output, rfl, success⟩
        exact ((ih left').of_imp next).andThen fun steps => carries_ok fun _ reached => reached
      · exact carries_error fun old holds => holds.1

theorem runHooks_carries :
    Adding.Carries (runHooks (setup.workspace branch) config (setup.workspace branch).worktreePath :
        Adding ω Unit)
      (Reached setup branch config 0 0)
      (fun _ => Reached setup branch config config.postCreate.length 0)
      (InOrder setup branch config) := by
  have clock : ∀ hooks, Adding.Carries (Adding.lift Act.now : Adding ω Nat)
      (Reached setup branch config hooks 0) (fun _ => Reached setup branch config hooks 0)
      (InOrder setup branch config) :=
    fun hooks => carries_lift fun _ _ reached => emits_now.mono fun _ _ none => none ▸ reached
  unfold runHooks
  apply (clock 0).bind
  intro start
  apply (carries_attempt _ fun progress => runFrom_carries progress List.drop_zero).bind
  intro steps
  apply (clock _).bind
  intro finish
  exact carries_modify fun _ _ reached => { reached with panes := reached.panes }

/-! ## Panes -/

/-- A pane is split off and noted, and what follows is done with one more. -/
theorem splitPane_carries {splits : Nat} {window path current : String} {direction : Mux.Direction}
    {env : Environment} {blame : Mux.Error → Error} {f : String → Adding ω α}
    {after : α → Progress → List Event → Prop}
    (rest : ∀ pane, (f pane).Carries
      (Reached setup branch config config.postCreate.length (splits + 1)) after
      (InOrder setup branch config)) :
    Adding.Carries (Adding.attempt (setup.mux.splitPane current direction path env) blame >>=
        fun pane => Adding.made (.pane window pane) >>= fun _ => f pane)
      (Reached setup branch config config.postCreate.length splits) after
      (InOrder setup branch config) := by
  intro progress old reached
  apply Adding.emits_attempt_bind (setup.mux.splitPane_emits current direction path env)
  · intro pane first given
    obtain ⟨reply, rfl, told⟩ := given
    have role := setup.mux.role?_splitCommand current direction path env
    have made : (setup.mux.paneOfReply? reply).isSome := by
      rw [told pane rfl]
      rfl
    apply Adding.emits_made_bind
    apply (rest pane _ _ (reached.split role made window pane)).mono
    intro new result progress holds
    rw [List.append_assoc]
    exact holds
  · intro e first given
    obtain ⟨reply, rfl, -⟩ := given
    have role := setup.mux.role?_splitCommand current direction path env
    exact reached.inOrder.ran (reached.timely_split role) reply

theorem splitPanes_carries (window path current : String) (specs : List PaneSpec) (splits : Nat) :
    Adding.Carries (splitPanes setup (setup.workspace branch) window path current specs :
        Adding ω (List (String × String)))
      (Reached setup branch config config.postCreate.length splits)
      (fun _ => Reached setup branch config config.postCreate.length
        (splits + specs.countP (·.split.isSome)))
      (InOrder setup branch config) := by
  induction specs generalizing current splits with
  | nil => exact carries_pure fun _ _ reached => reached
  | cons spec specs ih =>
    unfold splitPanes
    cases direction : spec.split with
    | none =>
      rw [List.countP_cons_of_neg (by simp [direction])]
      exact (ih current splits).bind fun _ => carries_pure fun _ _ reached => reached
    | some _ =>
      rw [List.countP_cons_of_pos (by simp [direction]), Nat.add_comm _ 1, ← Nat.add_assoc]
      apply splitPane_carries
      intro pane
      exact (ih pane (splits + 1)).bind fun _ => carries_pure fun _ _ reached => reached

theorem setUpPanes_carries (window : Mux.Window) (path : String) :
    Adding.Carries (setUpPanes setup (setup.workspace branch) window path config.effectivePanes :
        Adding ω (List (String × String)))
      (Reached setup branch config config.postCreate.length 0)
      (fun _ => Reached setup branch config config.postCreate.length config.splitCount)
      (InOrder setup branch config) := by
  unfold Config.splitCount
  cases config.effectivePanes with
  | nil => exact carries_pure fun _ _ reached => reached
  | cons first rest =>
    have splits : Adding.Carries (splitPanes setup (setup.workspace branch) window.name path
          window.pane rest : Adding ω (List (String × String)))
        (Reached setup branch config config.postCreate.length 0)
        (fun _ => Reached setup branch config config.postCreate.length
          (0 + rest.countP (·.split.isSome)))
        (InOrder setup branch config) :=
      splitPanes_carries window.name path window.pane rest 0
    rw [Nat.zero_add] at splits
    exact splits.bind fun _ => carries_pure fun _ _ reached => reached

/-- Whether as many panes are listed as are expected. -/
def listsEnough (setup : Setup) (window : String) (expected : Nat) : Act ω Bool := do
  match ← (setup.mux.listPanes window).run with
  | .ok panes => pure (expected ≤ panes.length)
  | .error _ => pure false

theorem awaitPanes_eq (setup : Setup) (window : String) :
    (awaitPanes setup window : Adding ω Unit) = (do
      let expected := ((← get).created.filterMap Resource.pane?).length
      Adding.attempt (ExceptT.mk (setup.poller.poll s!"{expected} panes in {window}" Act.pause
        (listsEnough setup window expected))) (failedIn .settingUpPanes ∘ .poll)) := rfl

theorem listsEnough_emits {progress : Progress}
    (reached :
      Reached setup branch config config.postCreate.length config.splitCount progress old) :
    Act.Emits (listsEnough setup (setup.workspace branch).windowName (1 + config.splitCount) :
        Act ω Bool) fun new found =>
      if found then Complete setup branch config (new ++ old)
      else Reached setup branch config config.postCreate.length config.splitCount progress
        (new ++ old) := by
  have lists : Emits (setup.mux.listPanes (setup.workspace branch).windowName :
      Mux.Result ω (List String)).run _ :=
    (setup.mux.listPanes_listed _).and (setup.mux.listPanes_idle _).only
  apply lists.bind
  intro result new given
  obtain ⟨listed, idle⟩ := given
  cases result with
  | error e => exact emits_pure (reached.idle idle)
  | ok panes =>
    by_cases enough : 1 + config.splitCount ≤ panes.length
    · have some : panes ≠ [] := by
        rintro rfl
        simp at enough
      simp only [enough, decide_true]
      exact emits_pure (reached.complete idle (listed panes rfl some) enough)
    · simp only [enough, decide_false]
      exact emits_pure (reached.idle idle)

theorem awaitPanes_carries :
    Adding.Carries (awaitPanes setup (setup.workspace branch).windowName : Adding ω Unit)
      (Reached setup branch config config.postCreate.length config.splitCount)
      (fun _ _ => Complete setup branch config) (InOrder setup branch config) := by
  have waits : ∀ what, Adding.Carries (Adding.attempt (ExceptT.mk (setup.poller.poll what Act.pause
        (listsEnough setup (setup.workspace branch).windowName (1 + config.splitCount))))
        (failedIn .settingUpPanes ∘ .poll) : Adding ω Unit)
      (Reached setup branch config config.postCreate.length config.splitCount)
      (fun _ _ => Complete setup branch config) (InOrder setup branch config) := by
    intro what
    apply carries_attempt
    intro progress
    apply carries_poll
    · exact fun old reached => listsEnough_emits reached
    · exact fun duration old reached => reached.idle (runsOnly_quiet (.paused duration) nofun)
    · exact fun old reached => reached.inOrder
  intro progress old reached
  rw [awaitPanes_eq]
  apply Adding.emits_get_bind
  rw [reached.panes]
  exact waits _ progress old reached

theorem deliver_carries (deliveries : List (String × String)) :
    Adding.Carries (deliver setup (setup.workspace branch) deliveries : Adding ω Unit)
      (fun _ => Complete setup branch config) (fun _ _ => Complete setup branch config)
      (InOrder setup branch config) := by
  induction deliveries with
  | nil => exact carries_pure fun _ _ complete => complete
  | cons delivery rest ih =>
    obtain ⟨pane, command⟩ := delivery
    have sends : ∀ text, Adding.Carries
        (Adding.lift (setup.mux.sendText pane text : Mux.Result ω Unit).run)
        (fun _ => Complete setup branch config) (fun _ _ => Complete setup branch config)
        (InOrder setup branch config) :=
      fun text => carries_lift fun progress old complete =>
        (setup.mux.sendText_within pane text).only.mono fun new result sends =>
          complete.append (sends.imp fun c send => .inl send)
    unfold deliver
    apply (sends _).bind
    intro sent
    cases sent with
    | ok _ => exact ih
    | error e =>
      refine Adding.Carries.bind (carries_modify ?_) fun _ => ih
      exact fun _ _ complete => complete

/-! ## The whole addition -/

theorem furnish_carries {window : Mux.Window}
    (named : window.name = (setup.workspace branch).windowName) :
    Adding.Carries (furnish setup (setup.workspace branch) config
        (setup.workspace branch).worktreePath window : Adding ω Unit)
      (Reached setup branch config 0 0) (fun _ _ => Complete setup branch config)
      (InOrder setup branch config) := by
  have settles : ∀ duration, Adding.Carries (Adding.lift (Act.pause duration) : Adding ω Unit)
      (fun _ => Complete setup branch config) (fun _ _ => Complete setup branch config)
      (InOrder setup branch config) :=
    fun duration => carries_lift fun progress old complete => by
      apply (emits_pause duration).mono
      rintro _ _ rfl
      exact complete.append (runsOnly_quiet (.paused duration) nofun)
  unfold furnish
  apply runHooks_carries.bind
  intro _
  apply (setUpPanes_carries window _).bind
  intro deliveries
  rw [named]
  apply awaitPanes_carries.bind
  intro _
  dsimp only
  split
  · exact (settles _).bind fun _ => deliver_carries deliveries
  · exact deliver_carries deliveries

theorem equip_carries :
    Adding.Carries (equip setup (setup.workspace branch) config
        (setup.workspace branch).worktreePath : Adding ω Unit)
      (Housed setup branch config) (fun _ _ => Complete setup branch config)
      (InOrder setup branch config) := by
  apply createWindow_carries.bind
  intro window progress old given
  obtain ⟨reached, named⟩ := given
  exact furnish_carries named progress old reached

theorem provision_carries :
    Adding.Carries (provision setup (setup.workspace branch) config : Adding ω Unit)
      (fun progress history => progress = {} ∧ Clear setup branch config history)
      (fun _ _ => Complete setup branch config) (InOrder setup branch config) := by
  rw [provision_eq]
  apply createWorktree_carries.bind
  intro path progress old given
  obtain ⟨rfl, housed⟩ := given
  exact equip_carries progress old housed

variable {host : Host ω} {s : Session ω}

/-- No question that is asked before anything is made does anything for the workspace. -/
theorem idle_of_mem_queries {c : Command} (member : c ∈ queries setup branch) : c.Idle := by
  have running : setup.mux.runningQuery.Idle := by
    unfold Multiplexer.runningQuery
    cases setup.mux.kind with
    | tmux => exact Command.idle_tmux _ _ (by decide)
    | wezterm => exact Command.idle_wezterm _ (by decide)
  have windows : setup.mux.windowQuery.Idle := by
    unfold Multiplexer.windowQuery
    cases setup.mux.kind with
    | tmux => exact Command.idle_tmux _ _ (by decide)
    | wezterm => exact Command.idle_wezterm _ (by decide)
  simp only [queries, List.mem_cons, List.not_mem_nil, or_false] at member
  rcases member with rfl | rfl | rfl | rfl
  · exact running
  · exact Command.idle_git _ _
  · exact Command.idle_git _ _
  · exact windows

theorem rollBack_idle (setup : Setup) (resources : List Resource) :
    Within Idle (rollBack setup resources : Act ω (List Resource × List Error)) := by
  refine rollBack_within
    (undo_within setup.mux.destroyWindow_idle (fun branch => ?_) fun branch => ?_) resources
  · exact Repository.remove_within true (Command.idle_git _ _) (fun _ => Command.idle_git _ _)
      (Command.idle_git _ _)
  · exact Repository.deleteBranch_within true (Command.idle_git _ _) fun _ => Command.idle_git _ _

/-- All that an addition ran is in order: if it is ready, all hooks and splits were done and the
panes were shown, and otherwise nothing was done for the workspace since the step at which it
failed. -/
structure Orderly (setup : Setup) (branch : String) (config : Config) (host : Host ω)
    (s : Session ω) (o : Outcome AddState) (after : Session ω) (events : List Event) : Prop where
  journal : after.journal = events ++ s.journal
  inOrder : InOrder setup branch config events
  ready : o.state = .ready → Complete setup branch config events
  failed : o.state = .failed → ∃ step e created failedIn later,
    Fails setup branch config host s step e created failedIn ∧
      after.journal = later ++ failedIn.journal ∧ RunsOnly Idle later

theorem build_orderly {guard : Guard} {s1 s2 : Session ω} {old : List Event}
    (locked : (acquire setup.lockTable branch).perform host s = (.ok guard, s1))
    (valid : (validate setup (setup.workspace branch) config).run.perform host s1 = (.ok (), s2))
    (journal : s2.journal = old ++ s.journal) (clear : Clear setup branch config old) :
    ∃ events, Orderly setup branch config host s
      ((build setup (setup.workspace branch) config).perform host s2).1
      ((build setup (setup.workspace branch) config).perform host s2).2 events := by
  obtain ⟨new, journal3, ordered⟩ := provision_carries {} old ⟨rfl, clear⟩ host s2
  cases made : ((provision setup (setup.workspace branch) config).run.run {}).perform host s2 with
  | mk result s3 =>
  obtain ⟨result, progress⟩ := result
  rw [made] at journal3 ordered
  rw [journal, ← List.append_assoc] at journal3
  cases result with
  | ok _ =>
    rw [perform_build_ok made]
    exact ⟨new ++ old, journal3, ordered.inOrder, fun _ => ordered, nofun⟩
  | error e =>
    obtain ⟨step, breaks⟩ := provision_breaks made
    obtain ⟨later, journal4, idle⟩ :=
      (rollBack_idle setup (undoOrder progress.created)).only host s3
    cases undone : (rollBack setup (undoOrder progress.created)).perform host s3 with
    | mk told s4 =>
    obtain ⟨removed, errors⟩ := told
    rw [undone] at journal4
    rw [perform_build_error made undone]
    refine ⟨later ++ (new ++ old), ?_, InOrder.idle ordered idle, nofun, fun _ => ?_⟩
    · rw [List.append_assoc, ← journal3]
      exact journal4
    · exact ⟨step, e, progress.created, s3, later, .making locked valid breaks, journal4, idle⟩

theorem addLocked_orderly (config : Config) {guard : Guard} {s1 : Session ω}
    (locked : (acquire setup.lockTable branch).perform host s = (.ok guard, s1))
    (journal : s1.journal = [.locked guard] ++ s.journal) :
    ∃ events, Orderly setup branch config host s
      ((addLocked setup (setup.workspace branch) config).perform host s1).1
      ((addLocked setup (setup.workspace branch) config).perform host s1).2 events := by
  obtain ⟨asked, journal2, queried⟩ :=
    (validate_inquires setup (setup.workspace branch) config).only host s1
  cases verdict : (validate setup (setup.workspace branch) config).run.perform host s1 with
  | mk result s2 =>
  rw [verdict, journal, ← List.append_assoc] at journal2
  have locking : Clear setup branch config [.locked guard] :=
    clear_nil.idle (runsOnly_quiet (.locked guard) nofun)
  have clear : Clear setup branch config (asked ++ [.locked guard]) :=
    locking.idle (queried.imp fun c => idle_of_mem_queries)
  unfold addLocked
  rw [perform_bind verdict]
  cases result with
  | ok _ => exact build_orderly locked verdict journal2 clear
  | error e =>
    exact ⟨_, journal2, clear.inOrder, nofun, fun _ =>
      ⟨_, e, [], s2, [], .validation locked verdict, rfl, Composable.nil⟩⟩

theorem add_orderly (setup : Setup) (branch : String) (config : Config) (host : Host ω)
    (s : Session ω) :
    ∃ events, Orderly setup branch config host s ((add setup branch config).perform host s).1
      ((add setup branch config).perform host s).2 events := by
  obtain ⟨_, journal, rfl⟩ := emits_acquire setup.lockTable branch host s
  cases lock : (acquire setup.lockTable branch : Act ω _).perform host s with
  | mk guard? s1 =>
  rw [lock] at journal
  unfold add
  dsimp only
  rw [perform_bind lock]
  cases guard? with
  | error e =>
    exact ⟨_, journal, inOrder_nil.idle (runsOnly_quiet (.refused e) nofun), nofun, fun _ =>
      ⟨_, _, [], s1, [], .lock lock, rfl, Composable.nil⟩⟩
  | ok guard =>
    obtain ⟨events, inside⟩ := addLocked_orderly config lock journal
    have released : RunsOnly Idle [.released guard] := runsOnly_quiet _ nofun
    refine ⟨[Event.released guard] ++ events, congrArg (Event.released guard :: ·) inside.journal,
      inside.inOrder.idle released, fun ready => ?_, fun failed => ?_⟩
    · exact (inside.ready ready).append (released.imp fun _ idle => .inr idle)
    · obtain ⟨step, e, created, failedIn, later, fails, since, idle⟩ := inside.failed failed
      exact ⟨step, e, created, failedIn, [Event.released guard] ++ later, fails,
        congrArg (Event.released guard :: ·) since, Composable.append released idle⟩

end Lifecycle.Add

/-- **An addition keeps its order.** Whatever the outside answers, each command that makes a window,
runs a hook, splits a pane off or types into one has its place; the hooks that are run are the first
ones of the configuration, and all of them if the addition is ready. Neither hooks nor splits nor
texts follow a hook or a split that failed. Since the step at which an addition failed, which may be
the wait for the panes as well, it does nothing for the workspace any more. -/
theorem Lifecycle.add_in_order (setup : Setup) (branch : String) (config : Config) (host : Host ω)
    (s : Session ω) :
    ∃ events, Add.Orderly setup branch config host s
        ((add setup branch config).perform host s).1
        ((add setup branch config).perform host s).2 events ∧
      (ranAs .hook events).map Prod.fst <+:
        config.postCreate.map (Add.hookCommand setup branch) ∧
      ∀ newer c reply older, events = newer ++ .ran c reply :: older →
        Add.Fatal setup.mux c reply →
          RunsOnly (fun later => ∀ role ∈ [Role.hook, .split, .send], later.role? ≠ some role)
            newer := by
  obtain ⟨events, orderly⟩ := Add.add_orderly setup branch config host s
  refine ⟨events, orderly, orderly.inOrder.hooks, ?_⟩
  rintro newer c reply older rfl fatal
  exact orderly.inOrder.stops fatal

end Worktop

import Mathlib.Data.List.DropRight
import Worktop.Proofs.PhaseOrder

/-! # Panes of a layout

Each entry of a layout splits a pane off the one that was made last, or goes on with that one. How a
layout is carried out (`Worktop.Multiplexer.LaysOut`) is told from the configuration and the panes
alone: which panes are split off which, and which command is for which pane
(`Worktop.Config.orders`). Until its commands are delivered an addition does nothing else for its
panes (`Worktop.Lifecycle.Add.Reaches.laidOut`).
-/

namespace Worktop

open Act hiding gives_lift_bind
open Command (Idle)
open Event (ranAs)

variable {ω α : Type}

/-! ## Configurations -/

namespace Text

theorem isBlankText_of_trim_empty {s : String} (empty : trim s = "") : isBlankText s = true := by
  have chars : Chars.trim s.toList = [] := by
    rw [← toList_trim, empty]
    rfl
  obtain ⟨trail, parts, blank⟩ := Chars.trim_parts s.toList
  rw [chars, List.append_nil] at parts
  rw [isBlankText, parts, List.all_append, List.all_takeWhile, List.all_eq_true.mpr blank]
  rfl

end Text

namespace Config

/-- How each pane that is to be split off is to lie, in order. -/
def splitDirections (config : Config) : List Mux.Direction :=
  config.effectivePanes.tail.filterMap (·.split)

/-- Which pane was made last when an entry of the layout is reached, counted from the first one. -/
def latestPane (config : Config) (index : Nat) : Nat :=
  (config.effectivePanes.tail.take index).countP (·.split.isSome)

/-- Which command is for which pane: each entry that has one is for the pane that was made last. -/
def orders (config : Config) (panes : List String) : List (String × String) :=
  config.effectivePanes.zipIdx.filterMap fun (spec, index) =>
    spec.command.map fun command => (panes.getD (config.latestPane index) "", Text.trim command)

/-- A configuration that is fit has no blank command, so none is left out for being blank. -/
theorem trimmedCommand?_of_fit {config : Config} (fit : ¬ config.Unfit) {spec : PaneSpec}
    (member : spec ∈ config.effectivePanes) :
    spec.trimmedCommand? = spec.command.map Text.trim := by
  cases command : spec.command with
  | none => simp [PaneSpec.trimmedCommand?, command]
  | some text =>
    have listed : spec ∈ config.panes := by
      unfold effectivePanes at member
      split at member
      · cases List.mem_singleton.mp member
        cases command
      · exact member
    have filled : Text.trim text ≠ "" := by
      intro empty
      have blank := List.all_eq_true.mp (Text.isBlankText_of_trim_empty empty)
      exact fit (.inr (.inl ⟨spec, listed, text, command, blank⟩))
    simp [PaneSpec.trimmedCommand?, command, filled]

theorem orders_of_fit {config : Config} (fit : ¬ config.Unfit) (panes : List String) :
    config.orders panes = config.effectivePanes.zipIdx.filterMap fun (spec, index) =>
      spec.trimmedCommand?.map (panes.getD (config.latestPane index) "", ·) := by
  refine List.filterMap_congr fun (spec, index) member => ?_
  have trimmed := trimmedCommand?_of_fit fit (List.fst_mem_of_mem_zipIdx member)
  simp only [trimmed, Option.map_map]
  rfl

end Config

/-! ## Carrying a layout out -/

/-- A layout is carried out from a pane on: the commands that split panes off, each with its reply,
the panes that were made, and each command with the pane it is for. -/
inductive Multiplexer.LaysOut (m : Multiplexer) (directory : String) (env : Environment) :
    String → List PaneSpec → List (Command × Reply) → List String → List (String × String) → Prop
  | done (current : String) : LaysOut m directory env current [] [] [] []
  | reuse {current : String} {spec : PaneSpec} {specs : List PaneSpec}
      {splits : List (Command × Reply)} {panes : List String} {orders : List (String × String)}
      (whole : spec.split = none)
      (rest : LaysOut m directory env current specs splits panes orders) :
      LaysOut m directory env current (spec :: specs) splits panes
        ((spec.trimmedCommand?.map (current, ·)).toList ++ orders)
  | split {current pane : String} {spec : PaneSpec} {specs : List PaneSpec}
      {direction : Mux.Direction} {reply : Reply} {splits : List (Command × Reply)}
      {panes : List String} {orders : List (String × String)}
      (parts : spec.split = some direction) (made : m.paneOfReply? reply = some pane)
      (rest : LaysOut m directory env pane specs splits panes orders) :
      LaysOut m directory env current (spec :: specs)
        ((m.splitCommand current direction directory env, reply) :: splits) (pane :: panes)
        ((spec.trimmedCommand?.map (pane, ·)).toList ++ orders)

namespace Multiplexer.LaysOut

variable {m : Multiplexer} {directory current : String} {env : Environment}
  {specs : List PaneSpec} {splits : List (Command × Reply)} {panes : List String}
  {orders : List (String × String)}

/-- Each pane is split off the one that was made just before it. -/
theorem commands (laysOut : m.LaysOut directory env current specs splits panes orders) :
    splits.map Prod.fst = List.zipWith
      (fun origin direction => m.splitCommand origin direction directory env) (current :: panes)
      (specs.filterMap (·.split)) := by
  induction laysOut with
  | done current => rfl
  | reuse whole rest ih => rw [ih, List.filterMap_cons_none whole]
  | split parts made rest ih =>
    rw [List.filterMap_cons_some parts, List.zipWith_cons_cons, ← ih]
    rfl

/-- The panes that were made are those that the replies tell. -/
theorem replies (laysOut : m.LaysOut directory env current specs splits panes orders) :
    splits.map (fun split => m.paneOfReply? split.2) = panes.map some := by
  induction laysOut with
  | done current => rfl
  | reuse whole rest ih => exact ih
  | split parts made rest ih => rw [List.map_cons, List.map_cons, ih, made]

theorem length (laysOut : m.LaysOut directory env current specs splits panes orders) :
    panes.length = specs.countP (·.split.isSome) := by
  induction laysOut with
  | done current => rfl
  | reuse whole rest ih => rw [ih, List.countP_cons_of_neg (by simp [whole])]
  | split parts made rest ih =>
    rw [List.length_cons, ih, List.countP_cons_of_pos (by simp [parts])]

/-- Each command is for the pane that was made last when its entry was reached. -/
theorem orders_eq (laysOut : m.LaysOut directory env current specs splits panes orders) :
    orders = specs.zipIdx.filterMap fun (spec, index) => spec.trimmedCommand?.map
      ((current :: panes).getD ((specs.take (index + 1)).countP (·.split.isSome)) "", ·) := by
  induction laysOut with
  | done current => rfl
  | @reuse current spec specs _ _ _ whole rest ih =>
    have next : ∀ index, ((spec :: specs).take (index + 1)).countP (·.split.isSome) =
        (specs.take index).countP (·.split.isSome) :=
      fun index => List.countP_cons_of_neg (by simp [whole])
    rw [ih]
    simp only [next, List.zipIdx_cons', List.filterMap_cons, List.filterMap_map]
    cases spec.trimmedCommand? <;> rfl
  | @split current pane spec specs _ _ _ _ _ parts made rest ih =>
    have next : ∀ index, ((spec :: specs).take (index + 1)).countP (·.split.isSome) =
        (specs.take index).countP (·.split.isSome) + 1 :=
      fun index => List.countP_cons_of_pos (by simp [parts])
    rw [ih]
    simp only [next, List.zipIdx_cons', List.filterMap_cons, List.filterMap_map,
      List.getD_cons_succ]
    cases spec.trimmedCommand? <;> rfl

end Multiplexer.LaysOut

namespace Lifecycle.Add

open Adding (carries_of_fact)

variable {setup : Setup} {workspace : Workspace} {branch : String} {config : Config}

/-! ## Until commands are delivered -/

/-- All that is done before commands are delivered: which command is for which pane. -/
def prepare (setup : Setup) (workspace : Workspace) (config : Config) :
    Adding ω (List (String × String)) := do
  let path ← createWorktree setup workspace.branch
  let window ← createWindow setup workspace path
  runHooks workspace config path
  let orders ← setUpPanes setup workspace window path config.effectivePanes
  awaitPanes setup window.name
  pure orders

/-- Delivers commands, if there are any, once the panes have settled. -/
def dispatch (setup : Setup) (workspace : Workspace) (config : Config)
    (orders : List (String × String)) : Adding ω Unit := do
  if !orders.isEmpty then Adding.lift (Act.pause (config.settleDelay * 1000))
  deliver setup workspace orders

theorem provision_eq_prepare (setup : Setup) (workspace : Workspace) (config : Config) :
    (provision setup workspace config : Adding ω Unit) =
      prepare setup workspace config >>= dispatch setup workspace config := by
  simp only [provision, prepare, dispatch, bind_assoc, pure_bind]

/-- Nothing was done for the workspace but its worktree, and nothing was warned of. -/
structure Bare (progress : Progress) (history : List Event) : Prop where
  roleless : ∀ role, ranAs role history = []
  panes : progress.created.filterMap Resource.pane? = []
  unwarned : progress.warnings = []

/-- The window was made with its first pane, and just so many panes were split off; nothing was
typed into them, and nothing was warned of. -/
structure Unfolded (setup : Setup) (branch : String) (first : String)
    (splits : List (Command × Reply)) (panes : List String) (progress : Progress)
    (history : List Event) : Prop where
  window : ∃ reply, ranAs .window history = [(windowCommand setup branch, reply)] ∧
    setup.mux.firstPaneOfReply? (setup.workspace branch).windowName reply = some first
  splits : ranAs .split history = splits
  unsent : ranAs .send history = []
  panes : progress.created.filterMap Resource.pane? = first :: panes
  unwarned : progress.warnings = []

variable {first : String} {splits : List (Command × Reply)} {panes : List String}
  {progress : Progress} {old new : List Event}

/-- Hooks and queries change nothing of a layout. -/
theorem Unfolded.append (unfolded : Unfolded setup branch first splits panes progress old)
    (other : RunsOnly (fun c => c.role? = some .hook ∨ c.Idle) new) :
    Unfolded setup branch first splits panes progress (new ++ old) := by
  have same : ∀ role, role ≠ .hook → ranAs role (new ++ old) = ranAs role old := by
    intro role different
    refine Event.ranAs_append_of_other (other.imp fun c plain => ?_) old
    rcases plain with hook | idle
    · rw [hook]
      exact fun same => different (Option.some.inj same).symm
    · exact idle.role_ne role
  obtain ⟨reply, alone, told⟩ := unfolded.window
  refine ⟨⟨reply, ?_, told⟩, ?_, ?_, unfolded.panes, unfolded.unwarned⟩
  · rw [same .window (by decide)]
    exact alone
  · rw [same .split (by decide)]
    exact unfolded.splits
  · rw [same .send (by decide)]
    exact unfolded.unsent

theorem createWorktree_bare :
    Adding.Carries (createWorktree setup branch : Adding ω String)
      (fun progress history => progress = {} ∧ ∀ role, ranAs role history = [])
      (fun path progress history => path = (setup.workspace branch).worktreePath ∧
        Bare progress history)
      fun _ => True := by
  intro progress old given
  obtain ⟨rfl, roleless⟩ := given
  have idle : Within Idle (setup.repository.create branch : Worktree.Result ω String).run :=
    Repository.create_within (Command.idle_git _ _) (Command.idle_git _ _) (Command.idle_git _ _)
  have asks : Within Idle (setup.repository.branchExists branch : Worktree.Result ω Bool).run :=
    Repository.branchExists_within (Command.idle_git _ _)
  unfold createWorktree
  refine Adding.emits_lift_bind (idle.only.gives (Repository.create_path branch)) ?_
  intro result new given
  obtain ⟨idle, named⟩ := given
  cases result with
  | ok path =>
    refine Adding.emits_made_bind (Adding.emits_made_bind (Adding.emits_pure ?_))
    refine ⟨named path rfl, fun role => ?_, rfl, rfl⟩
    rw [List.nil_append, Event.ranAs_append_of_idle idle]
    exact roleless role
  | error e =>
    apply Adding.emits_lift_bind asks.only
    intro left newer idle'
    dsimp only
    split
    · exact Adding.emits_throw trivial
    · exact Adding.emits_made_bind (Adding.emits_throw trivial)
    · exact Adding.emits_throw trivial

theorem createWindow_unfolds :
    Adding.Carries (createWindow setup (setup.workspace branch)
        (setup.workspace branch).worktreePath : Adding ω Mux.Window) Bare
      (fun window => Unfolded setup branch window.pane [] []) fun _ => True := by
  intro progress old bare
  have opens := role?_windowCommand setup branch
  unfold createWindow
  refine Adding.emits_attempt_bind (setup.mux.createWindow_opening
    (setup.workspace branch).windowName (setup.workspace branch).worktreePath
    (setup.workspace branch).env) ?_ fun _ _ _ => trivial
  intro window first opening
  refine Adding.emits_made_bind (Adding.emits_made_bind (Adding.emits_pure ?_))
  cases opening with
  | @opened newer older reply _ later earlier told =>
    have alone : ∀ role, ranAs role
        (newer ++ .ran (windowCommand setup branch) reply :: older ++ old) =
          if role = .window then [(windowCommand setup branch, reply)] else [] := by
      intro role
      rw [List.append_assoc, Event.ranAs_append_of_idle later, List.cons_append]
      by_cases same : role = .window
      · rw [if_pos same, same, Event.ranAs_cons_of_role opens, Event.ranAs_append_of_idle earlier,
          bare.roleless]
        rfl
      · have other := opens.trans_ne fun role' => same (Option.some.inj role').symm
        rw [if_neg same, Event.ranAs_cons_of_other other, Event.ranAs_append_of_idle earlier,
          bare.roleless]
    refine ⟨⟨reply, ?_, told window rfl⟩, ?_, ?_, ?_, bare.unwarned⟩
    · exact (alone .window).trans (if_pos rfl)
    · exact (alone .split).trans (if_neg (by decide))
    · exact (alone .send).trans (if_neg (by decide))
    · simp only [List.filterMap_append, bare.panes]
      rfl

/-- A part of an addition that runs nothing but hooks and queries, and makes nothing. -/
theorem unfolded_of_within {part : Adding ω α}
    (within : ∀ made : Progress, part.Within (fun c => c.role? = some .hook ∨ c.Idle)
      fun progress => progress.created = made.created ∧ progress.warnings = made.warnings) :
    part.Carries (Unfolded setup branch first splits panes)
      (fun _ => Unfolded setup branch first splits panes) fun _ => True := by
  intro progress old unfolded
  apply ((within progress).keeps progress ⟨rfl, rfl⟩).mono
  intro new result after given
  obtain ⟨other, created, warnings⟩ := given
  cases result with
  | error e => trivial
  | ok a =>
    have later := unfolded.append other
    refine ⟨later.window, later.splits, later.unsent, ?_, ?_⟩
    · rw [created]
      exact later.panes
    · rw [warnings]
      exact later.unwarned

theorem runHooks_unfolded (path : String) :
    Adding.Carries (runHooks workspace config path : Adding ω Unit)
      (Unfolded setup branch first splits panes)
      (fun _ => Unfolded setup branch first splits panes) fun _ => True :=
  unfolded_of_within fun _ => runHooks_within (fun _ => id) (fun _ => .inl rfl) config

theorem awaitPanes_unfolded (window : String) :
    Adding.Carries (awaitPanes setup window : Adding ω Unit)
      (Unfolded setup branch first splits panes)
      (fun _ => Unfolded setup branch first splits panes) fun _ => True :=
  unfolded_of_within fun _ => awaitPanes_within ((setup.mux.listPanes_idle window).imp
    fun _ => .inr)

/-- The panes that a layout asks for are split off one after another, and are all that is made. -/
theorem splitPanes_lays (window path : String) (specs : List PaneSpec) (current : String)
    (progress : Progress) :
    (splitPanes setup workspace window path current specs :
      Adding ω (List (String × String))).Emits progress fun events result after =>
        ∀ orders, result = .ok orders → ∃ panes,
          setup.mux.LaysOut path workspace.env current specs (ranAs .split events) panes orders ∧
          RunsOnly (·.role? = some .split) events ∧
          after = { progress with created := progress.created ++ panes.map (.pane window) } := by
  induction specs generalizing current progress with
  | nil =>
    apply Adding.emits_pure
    intro orders same
    cases same
    exact ⟨[], .done current, Composable.nil, by simp⟩
  | cons spec specs ih =>
    unfold splitPanes
    cases parts : spec.split with
    | none =>
      apply Adding.emits_pure_bind
      refine Adding.Emits.bind (ih current progress) ?_ fun _ _ _ _ _ same => by cases same
      intro orders after old given
      obtain ⟨panes, laysOut, splits, rfl⟩ := given orders rfl
      apply Adding.emits_pure
      intro all same
      cases same
      exact ⟨panes, .reuse parts laysOut, splits, rfl⟩
    | some direction =>
      refine Adding.emits_attempt_bind (setup.mux.splitPane_emits current direction path _) ?_
        fun _ _ _ _ same => by cases same
      intro pane first given
      obtain ⟨reply, rfl, told⟩ := given
      have role := setup.mux.role?_splitCommand current direction path workspace.env
      apply Adding.emits_made_bind
      apply Adding.emits_pure_bind
      refine Adding.Emits.bind (ih pane _) ?_ fun _ _ _ _ _ same => by cases same
      intro orders after old given
      obtain ⟨panes, laysOut, splits, rfl⟩ := given orders rfl
      apply Adding.emits_pure
      intro all same
      cases same
      refine ⟨pane :: panes, ?_, Composable.append splits (runsOnly_ran role reply), by simp⟩
      rw [List.nil_append, Event.ranAs_append, Event.ranAs_cons_of_role role]
      exact .split parts (told pane rfl) laysOut

/-- The first entry of a layout goes on with the first pane of the window. -/
theorem setUpPanes_lays (window : Mux.Window) (path : String) :
    Adding.Carries (setUpPanes setup (setup.workspace branch) window path config.effectivePanes :
        Adding ω (List (String × String)))
      (Unfolded setup branch window.pane [] [])
      (fun orders progress history => ∃ splits panes later,
        setup.mux.LaysOut path (setup.workspace branch).env window.pane
          config.effectivePanes.tail splits panes later ∧
        orders = ((config.effectivePanes.head?.bind (·.trimmedCommand?)).map
          (window.pane, ·)).toList ++ later ∧
        Unfolded setup branch window.pane splits panes progress history)
      fun _ => True := by
  intro progress old unfolded
  cases config.effectivePanes with
  | nil => exact Adding.emits_pure ⟨[], [], [], .done _, rfl, unfolded⟩
  | cons first rest =>
    refine Adding.Emits.bind (splitPanes_lays window.name path rest window.pane progress) ?_
      fun _ _ _ _ => trivial
    intro later after new given
    obtain ⟨panes, laysOut, splits, rfl⟩ := given later rfl
    apply Adding.emits_pure
    have other : ∀ role, role ≠ .split → ranAs role (new ++ old) = ranAs role old :=
      fun role different => Event.ranAs_append_of_role different splits old
    obtain ⟨reply, alone, told⟩ := unfolded.window
    refine ⟨_, panes, later, laysOut, rfl, ⟨reply, ?_, told⟩, ?_, ?_, ?_, unfolded.unwarned⟩
    · rw [List.nil_append, other .window (by decide)]
      exact alone
    · rw [List.nil_append, Event.ranAs_append, unfolded.splits]
      rfl
    · rw [List.nil_append, other .send (by decide)]
      exact unfolded.unsent
    · have shown : (panes.map (Resource.pane window.name)).filterMap Resource.pane? = panes := by
        simp [List.filterMap_map, Function.comp_def, Resource.pane?]
      rw [List.filterMap_append, unfolded.panes, shown]
      rfl

theorem prepare_lays :
    Adding.Carries (prepare setup (setup.workspace branch) config :
        Adding ω (List (String × String)))
      (fun progress history => progress = {} ∧ ∀ role, ranAs role history = [])
      (fun orders progress history => ∃ first splits panes later,
        setup.mux.LaysOut (setup.workspace branch).worktreePath (setup.workspace branch).env first
          config.effectivePanes.tail splits panes later ∧
        orders = ((config.effectivePanes.head?.bind (·.trimmedCommand?)).map (first, ·)).toList ++
          later ∧
        Unfolded setup branch first splits panes progress history)
      fun _ => True := by
  unfold prepare
  apply createWorktree_bare.bind
  intro path
  apply carries_of_fact
  intro named
  subst named
  apply createWindow_unfolds.bind
  intro window
  apply (runHooks_unfolded _).bind
  intro _
  apply (setUpPanes_lays window _).bind
  intro orders progress old given
  obtain ⟨splits, panes, later, laysOut, rfl, unfolded⟩ := given
  refine (awaitPanes_unfolded window.name progress old unfolded).bind ?_ fun _ _ _ _ => trivial
  intro _ after new unfolded
  exact Adding.emits_pure ⟨window.pane, splits, panes, later, laysOut, rfl, unfolded⟩

/-! ## Additions that come to deliver commands -/

/-- An addition comes to deliver commands: which command is for which pane, and the progress and
the state from which they are delivered. -/
inductive Reaches (setup : Setup) (branch : String) (config : Config) (host : Host ω)
    (s : Session ω) : List (String × String) → Progress → Session ω → Prop
  | prepared {guard : Guard} {s1 s2 reached : Session ω} {orders : List (String × String)}
      {progress : Progress}
      (locked : (acquire setup.lockTable branch).perform host s = (.ok guard, s1))
      (valid : (validate setup (setup.workspace branch) config).run.perform host s1 =
        (.ok (), s2))
      (prepared : EndsWith (prepare setup (setup.workspace branch) config) host {} s2 (.ok orders)
        progress reached) :
      Reaches setup branch config host s orders progress reached

/-- The window was made with the first of some panes. The others were split off in turn, one for
each entry that asks for it, each from the pane before it. -/
structure LaidOut (setup : Setup) (branch : String) (config : Config) (panes : List String)
    (events : List Event) : Prop where
  window : ∃ c reply, ranAs .window events = [(c, reply)] ∧
    setup.mux.firstPaneOfReply? (setup.workspace branch).windowName reply = panes.head?
  count : panes.length = 1 + config.splitCount
  splits : (ranAs .split events).map Prod.fst = List.zipWith
    (fun origin direction => setup.mux.splitCommand origin direction
      (setup.workspace branch).worktreePath (setup.workspace branch).env)
    panes config.splitDirections
  replies : (ranAs .split events).map (fun split => setup.mux.paneOfReply? split.2) =
    panes.tail.map some

variable {host : Host ω} {s reached : Session ω} {orders : List (String × String)}

theorem fit_of_valid {s' : Session ω}
    (valid : (validate setup workspace config).run.perform host s = (.ok (), s')) :
    ¬ config.Unfit := by
  intro unfit
  obtain ⟨cause, same⟩ : ∃ cause, (validate setup workspace config : ExceptT Error (Act ω) Unit) =
      throw (rejection cause) := validate_of_unfit (.inl unfit)
  rw [same] at valid
  cases valid

/-- The commands of a layout that was carried out are for the panes that the configuration says. -/
theorem orders_of_laysOut {m : Multiplexer} {directory : String} {env : Environment}
    {later : List (String × String)} (fit : ¬ config.Unfit)
    (laysOut : m.LaysOut directory env first config.effectivePanes.tail splits panes later) :
    ((config.effectivePanes.head?.bind (·.trimmedCommand?)).map (first, ·)).toList ++ later =
      config.orders (first :: panes) := by
  rw [Config.orders_of_fit fit, laysOut.orders_eq]
  unfold Config.latestPane
  cases config.effectivePanes with
  | nil => rfl
  | cons entry rest =>
    simp only [List.zipIdx_cons', List.filterMap_cons, List.filterMap_map]
    cases command : entry.trimmedCommand? <;> simp [command]

/-- Where commands come to be delivered, a layout has been carried out from the first pane of the
window on, and nothing else was made. -/
theorem Reaches.unfolded
    (reaches : Reaches setup branch config host s orders progress reached) :
    ∃ events first splits panes, reached.journal = events ++ s.journal ∧
      Unfolded setup branch first splits panes progress events ∧
      orders = config.orders (first :: panes) ∧
      ∃ later, setup.mux.LaysOut (setup.workspace branch).worktreePath (setup.workspace branch).env
        first config.effectivePanes.tail splits panes later := by
  cases reaches with
  | @prepared guard s1 s2 _ _ _ locked valid prepared =>
  obtain ⟨_, journal1, rfl⟩ := emits_acquire setup.lockTable branch host s
  obtain ⟨asked, journal2, queried⟩ :=
    (validate_inquires setup (setup.workspace branch) config).only host s1
  rw [locked] at journal1
  rw [valid] at journal2
  have idle : RunsOnly Idle (asked ++ [.locked guard]) :=
    Composable.append (queried.imp fun _ => idle_of_mem_queries)
      (runsOnly_quiet (.locked guard) nofun)
  have roleless : ∀ role, ranAs role (asked ++ [.locked guard]) = [] := by
    intro role
    rw [← List.append_nil (asked ++ _), Event.ranAs_append_of_idle idle]
    rfl
  obtain ⟨new, journal3, lays⟩ := prepare_lays {} _ ⟨rfl, roleless⟩ host s2
  rw [prepared] at journal3 lays
  obtain ⟨first, splits, panes, later, laysOut, rfl, unfolded⟩ := lays
  refine ⟨new ++ (asked ++ [.locked guard]), first, splits, panes, ?_, unfolded,
    orders_of_laysOut (fit_of_valid valid) laysOut, later, laysOut⟩
  rw [journal3, journal2, journal1]
  simp

/-- Where commands come to be delivered, all panes of the layout are there. -/
theorem Reaches.laidOut
    (reaches : Reaches setup branch config host s orders progress reached) :
    ∃ events, reached.journal = events ++ s.journal ∧
      LaidOut setup branch config (progress.created.filterMap Resource.pane?) events ∧
      orders = config.orders (progress.created.filterMap Resource.pane?) ∧
      ranAs .send events = [] ∧ progress.warnings = [] := by
  obtain ⟨events, first, splits, panes, journal, unfolded, rfl, later, laysOut⟩ := reaches.unfolded
  obtain ⟨reply, alone, told⟩ := unfolded.window
  rw [unfolded.panes]
  refine ⟨events, journal, ⟨⟨_, reply, alone, told⟩, ?_, ?_, ?_⟩, rfl, unfolded.unsent,
    unfolded.unwarned⟩
  · rw [List.length_cons, laysOut.length, Nat.add_comm]
    rfl
  · rw [unfolded.splits]
    exact laysOut.commands
  · rw [unfolded.splits]
    exact laysOut.replies

end Lifecycle.Add

end Worktop

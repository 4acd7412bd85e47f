import Worktop.Proofs.Commands

/-! # How WezTerm makes a window

What a command to WezTerm comes to is told by its one reply (`Worktop.Mux.Wezterm.resultOf`), and so
is all that the making of a window comes to (`Worktop.Mux.Wezterm.Created`). A tab that gets no title
could never be found again, so its pane is killed. Main statement: no such pane is left
(`Worktop.Mux.Wezterm.createWindow_leaves_no_orphan`).
-/

namespace Worktop.Mux.Wezterm

open Act hiding gives_lift_bind

variable {ω : Type}

/-! ## Commands and their replies -/

/-- The command that lists all panes. -/
abbrev listing : Command := command ["list", "--format", "json"]

/-- The command that makes a window with one pane. -/
abbrev spawning (directory : String) : Command :=
  command ["spawn", "--new-window", "--cwd", directory]

/-- The command that gives the tab of a pane its title. -/
abbrev titling (name pane : String) : Command :=
  command ["set-tab-title", "--pane-id", pane, name]

/-- The command that splits a pane off another one. -/
abbrev splitting (origin : String) (direction : Direction) (directory : String) : Command :=
  let side :=
    match direction with
    | .horizontal => "--right"
    | .vertical => "--bottom"
  command ["split-pane", "--pane-id", origin, side, "--cwd", directory]

/-- The command that kills a pane. -/
abbrev killing (pane : String) : Command := command ["kill-pane", "--pane-id", pane]

/-- What a command that has to succeed comes to. -/
def resultOf (operation : String) : Reply → Except Error Output
  | .error e => .error (.unavailable .wezterm e.reason.message)
  | .ok output =>
    if output.success then .ok output
    else .error (.commandFailed .wezterm operation output.complaint)

theorem resultOf_eq_ok {operation : String} {reply : Reply} {output : Output}
    (told : resultOf operation reply = .ok output) :
    reply = .ok output ∧ output.success = true := by
  cases reply with
  | error e => cases told
  | ok output' =>
    by_cases success : output'.success = true
    · rw [resultOf, if_pos success] at told
      cases told
      exact ⟨rfl, success⟩
    · rw [resultOf, if_neg success] at told
      cases told

theorem run_reads (operation : String) (args : List String) :
    Reads (run operation args : Result ω Output).run (command args) (resultOf operation) := by
  unfold run
  apply reads_reply
  intro reply
  cases reply with
  | error e => rfl
  | ok output =>
    unfold resultOf
    dsimp only
    split
    · rfl
    · rfl

theorem run_tells (operation : String) (args : List String) :
    Emits (run operation args : Result ω Output).run fun events result =>
      ∃ reply, events = [.ran (command args) reply] ∧ result = resultOf operation reply :=
  (run_reads operation args).emits

theorem run_emits (operation : String) (args : List String) :
    Emits (run operation args : Result ω Output).run fun events result =>
      ∃ reply, events = [.ran (command args) reply] ∧
        ∀ output, result = .ok output → reply = .ok output ∧ output.success := by
  refine (run_tells operation args).mono fun events result given => ?_
  obtain ⟨reply, rfl, told⟩ := given
  exact ⟨reply, rfl, fun output same => resultOf_eq_ok (told.symm.trans same)⟩

/-- The panes that a reply lists. -/
def panesOf (reply : Reply) : Except Error (List PaneEntry) :=
  (resultOf "list" reply).bind fun output =>
    match PaneEntry.listOfText? output.stdout with
    | some entries => .ok entries
    | none => .error (.unexpectedOutput "list" "not a list of panes")

theorem panes_reads : Reads (panes : Result ω (List PaneEntry)).run listing panesOf := by
  unfold panes
  refine (run_reads "list" _).andThen ?_ ?_
  · intro reply output told
    rw [panesOf, told, Except.bind]
    cases PaneEntry.listOfText? output.stdout with
    | some entries => rfl
    | none => rfl
  · intro reply e told
    rw [panesOf, told]
    rfl

theorem panes_tells :
    Emits (panes : Result ω (List PaneEntry)).run fun events result =>
      ∃ reply, events = [.ran listing reply] ∧ result = panesOf reply :=
  panes_reads.emits

theorem panesOf_eq_ok {reply : Reply} {entries : List PaneEntry}
    (told : panesOf reply = .ok entries) : ∃ output, reply = .ok output ∧ output.success = true ∧
      PaneEntry.listOfText? output.stdout = some entries := by
  obtain ⟨output, answered, read⟩ := exists_of_bind_eq_ok told
  obtain ⟨rfl, success⟩ := resultOf_eq_ok answered
  split at read
  · rename_i parsed
    cases read
    exact ⟨output, rfl, success, parsed⟩
  · cases read

theorem panesIn_reads (name : String) :
    Reads (panesIn name : Result ω (List PaneEntry)).run listing fun reply =>
      (panesOf reply).map fun entries => entries.filter (·.title = name) :=
  panes_reads.map _

theorem listPanes_reads (name : String) :
    Reads (listPanes name : Result ω (List String)).run listing fun reply =>
      (panesOf reply).map fun entries =>
        (entries.filter (·.title = name)).map (toString ·.pane) := by
  have once : (listPanes name : Result ω (List String)) = panes >>= fun entries =>
      pure ((entries.filter (·.title = name)).map (toString ·.pane)) := by
    simp only [listPanes, panesIn, bind_assoc, pure_bind]
  rw [once]
  exact panes_reads.map _

/-- The pane that an output names. -/
def paneNamed (operation printed : String) : Except Error String :=
  match paneName? (Text.trim printed) with
  | some pane => .ok pane
  | none => .error (.unexpectedOutput operation (Text.trim printed))

theorem paneOfOutput_run (operation printed : String) :
    (paneOfOutput operation printed : Result ω String).run = pure (paneNamed operation printed) := by
  unfold paneOfOutput paneNamed
  dsimp only
  cases paneName? (Text.trim printed) with
  | some pane => rfl
  | none => rfl

theorem toOption_paneNamed (operation printed : String) :
    (paneNamed operation printed).toOption = paneName? (Text.trim printed) := by
  unfold paneNamed
  cases paneName? (Text.trim printed) with
  | some pane => rfl
  | none => rfl

theorem paneOfOutput_tells (operation printed : String) :
    Emits (paneOfOutput operation printed : Result ω String).run fun events result =>
      events = [] ∧ result.toOption = paneName? (Text.trim printed) := by
  rw [paneOfOutput_run]
  exact emits_pure ⟨rfl, toOption_paneNamed operation printed⟩

/-- The pane that a reply says was spawned, if one was. -/
def spawnedPane? (reply : Reply) : Option String :=
  (resultOf "spawn" reply).toOption.bind fun output => paneName? (Text.trim output.stdout)

theorem splitPane_reads (origin : String) (direction : Direction) (directory : String) :
    Reads (splitPane origin direction directory : Result ω String).run
      (splitting origin direction directory) fun reply =>
        (resultOf "split-pane" reply).bind fun output => paneNamed "split-pane" output.stdout := by
  unfold splitPane
  refine (run_reads "split-pane" _).andThen ?_ ?_
  · intro reply output told
    rw [paneOfOutput_run, told, Except.bind]
  · intro reply e told
    rw [told]
    rfl

/-! ## The making of a window -/

/-- All that giving a tab its title can come to: what is run, latest first, and what is told. -/
inductive Titled (name pane : String) : List Event → Except Error String → Prop
  | untitled {reply : Reply} {e : Error} (refused : resultOf "set-tab-title" reply = .error e) :
      Titled name pane [.ran (titling name pane) reply] (.error e)
  | unlisted {reply last : Reply} {output : Output} {e : Error}
      (titled : resultOf "set-tab-title" reply = .ok output) (unread : panesOf last = .error e) :
      Titled name pane [.ran listing last, .ran (titling name pane) reply] (.error e)
  | listed {reply last : Reply} {output : Output} {entries : List PaneEntry}
      (titled : resultOf "set-tab-title" reply = .ok output) (read : panesOf last = .ok entries) :
      Titled name pane [.ran listing last, .ran (titling name pane) reply]
        (.ok (tabOf pane entries))

/-- All that the making of a window can come to: what is run, latest first, and what is told. -/
inductive Created (name directory : String) : List Event → Except Error Window → Prop
  | unspawned (first : Reply) (e : Error) : Created name directory [.ran listing first] (.error e)
  | unnamed {spawned : Reply} (none : spawnedPane? spawned = none) (first : Reply) (e : Error) :
      Created name directory [.ran (spawning directory) spawned, .ran listing first] (.error e)
  | kept {spawned : Reply} {pane id : String} {events : List Event}
      (named : spawnedPane? spawned = some pane) (titled : Titled name pane events (.ok id))
      (first : Reply) :
      Created name directory
        (events ++ [.ran (spawning directory) spawned, .ran listing first])
        (.ok { name, id, pane })
  | killed {spawned : Reply} {pane : String} {events : List Event} {e : Error}
      (named : spawnedPane? spawned = some pane) (untitled : Titled name pane events (.error e))
      (first last : Reply) :
      Created name directory
        (.ran (killing pane) last ::
          (events ++ [.ran (spawning directory) spawned, .ran listing first])) (.error e)

theorem titleTab_titled (name pane : String) :
    Emits (titleTab name pane : Result ω String).run (Titled name pane) := by
  unfold titleTab
  refine (run_tells _ _).andThen ?_ ?_
  · intro output old given
    obtain ⟨reply, rfl, titled⟩ := given
    refine panes_tells.andThen ?_ ?_
    · intro entries new given
      obtain ⟨last, rfl, read⟩ := given
      exact emits_ok (.listed titled.symm read.symm)
    · intro e new given
      obtain ⟨last, rfl, unread⟩ := given
      exact .unlisted titled.symm unread.symm
  · intro e old given
    obtain ⟨reply, rfl, refused⟩ := given
    exact .untitled refused.symm

/-- A tab without its title does not stay, whatever becomes of the attempt to kill it. -/
theorem titleTab_or_kill (name pane : String) :
    Emits (tryCatch (titleTab name pane) fun e => do
        let _ ← ExceptT.lift (killPane pane : Result ω Unit).run
        throw e : Result ω String).run fun events result =>
      (∃ id, result = .ok id ∧ Titled name pane events (.ok id)) ∨
        ∃ e last earlier, result = .error e ∧ events = .ran (killing pane) last :: earlier ∧
          Titled name pane earlier (.error e) := by
  have kills : Emits (killPane pane : Result ω Unit).run fun events _ =>
      ∃ last, events = [.ran (killing pane) last] := by
    unfold killPane
    refine (run_tells _ _).andThen ?_ ?_
    · intro output old given
      obtain ⟨last, rfl, -⟩ := given
      exact emits_ok ⟨last, rfl⟩
    · intro e old given
      obtain ⟨last, rfl, -⟩ := given
      exact ⟨last, rfl⟩
  refine (titleTab_titled name pane).tryCatch (fun id old titled => .inl ⟨id, rfl, titled⟩) ?_
  intro e old untitled
  have lifted : Emits (ExceptT.lift (killPane pane : Result ω Unit).run : Result ω _).run
      fun events result => result.isOk ∧ ∃ last, events = [.ran (killing pane) last] :=
    Emits.lift (kills.mono fun _ _ killed => ⟨rfl, killed⟩)
  refine lifted.andThen ?_ ?_
  · intro _ new given
    obtain ⟨-, last, rfl⟩ := given
    exact emits_error (.inr ⟨e, last, old, rfl, rfl, untitled⟩)
  · intro _ new given
    cases given.1

theorem createWindow_created (name directory : String) :
    Emits (createWindow name directory : Result ω Window).run (Created name directory) := by
  unfold createWindow
  refine panes_tells.andThen ?_ ?_
  · intro entries listed given
    obtain ⟨first, rfl, -⟩ := given
    dsimp only
    split
    · rw [throw_bind]
      exact emits_error (.unspawned first _)
    refine (run_tells "spawn" _).andThen ?_ ?_
    · intro output old given
      obtain ⟨spawned, rfl, told⟩ := given
      have printed : spawnedPane? spawned = paneName? (Text.trim output.stdout) := by
        rw [spawnedPane?, ← told, Except.toOption, Option.bind_some]
      refine (paneOfOutput_tells "spawn" output.stdout).andThen ?_ ?_
      · intro pane none given
        obtain ⟨rfl, named⟩ := given
        refine (titleTab_or_kill name pane).andThen ?_ ?_
        · intro id new given
          obtain ⟨_, same, titled⟩ | ⟨e, last, earlier, same, -⟩ := given
          · cases same
            have kept : Created name directory _ _ :=
              .kept (printed.trans named.symm) titled first
            exact emits_ok (by simpa using kept)
          · cases same
        · intro e new given
          obtain ⟨_, same, -⟩ | ⟨_, last, earlier, same, rfl, untitled⟩ := given
          · cases same
          · cases same
            have killed : Created name directory _ _ :=
              .killed (printed.trans named.symm) untitled first last
            simpa using killed
      · intro e none given
        obtain ⟨rfl, unnamed⟩ := given
        exact .unnamed (printed.trans unnamed.symm) first e
    · intro e old given
      obtain ⟨spawned, rfl, told⟩ := given
      exact .unnamed (by rw [spawnedPane?, ← told]; rfl) first e
  · intro e old given
    obtain ⟨first, rfl, -⟩ := given
    exact .unspawned first e

/-! ## No orphans -/

variable {name directory pane : String} {events : List Event} {result : Except Error Window}
  {allowed : Command → Prop}

theorem mild_of_verb {verb : String} (rest : List String) (different : verb ≠ "kill-pane") :
    ¬ (command (verb :: rest)).Destructive := by
  simp [Command.Destructive, different]

theorem Titled.runs {told : Except Error String} (titled : Titled name pane events told)
    (titles : allowed (titling name pane)) (lists : allowed listing) :
    RunsOnly allowed events := by
  cases titled with
  | untitled refused => exact runsOnly_ran titles _
  | unlisted titled unread => exact Composable.append (runsOnly_ran lists _) (runsOnly_ran titles _)
  | listed titled read => exact Composable.append (runsOnly_ran lists _) (runsOnly_ran titles _)

theorem spawning_harmless (spawned first : Reply) : RunsOnly (fun c => ¬ c.Destructive)
    [.ran (spawning directory) spawned, .ran listing first] :=
  Composable.append (runsOnly_ran (mild_of_verb _ (by decide)) spawned)
    (runsOnly_ran (mild_of_verb _ (by decide)) first)

/-- Nothing is taken away while a window is made and its tab given the title. -/
theorem Titled.harmless {told : Except Error String} (titled : Titled name pane events told)
    (spawned first : Reply) : RunsOnly (fun c => ¬ c.Destructive)
      (events ++ [.ran (spawning directory) spawned, .ran listing first]) :=
  Composable.append
    (titled.runs (mild_of_verb _ (by decide)) (mild_of_verb _ (by decide)))
    (spawning_harmless spawned first)

/-- A pane was spawned: the command for it exited with 0, and this is the pane that it printed. -/
def Spawned (directory : String) (events : List Event) (pane : String) : Prop :=
  ∃ output, output.success = true ∧ paneName? (Text.trim output.stdout) = some pane ∧
    .ran (spawning directory) (.ok output) ∈ events

theorem spawnedPane?_eq_some_iff {reply : Reply} : spawnedPane? reply = some pane ↔
    ∃ output, reply = .ok output ∧ output.success = true ∧
      paneName? (Text.trim output.stdout) = some pane := by
  cases reply with
  | error e => simp [spawnedPane?, resultOf, Except.toOption]
  | ok output => by_cases success : output.success <;>
      simp [spawnedPane?, resultOf, Except.toOption, success]

theorem spawned_iff : Spawned directory events pane ↔
    ∃ reply, .ran (spawning directory) reply ∈ events ∧ spawnedPane? reply = some pane := by
  constructor
  · rintro ⟨output, success, named, ran⟩
    exact ⟨_, ran, spawnedPane?_eq_some_iff.mpr ⟨output, rfl, success, named⟩⟩
  · rintro ⟨reply, ran, told⟩
    obtain ⟨output, rfl, success, named⟩ := spawnedPane?_eq_some_iff.mp told
    exact ⟨output, success, named, ran⟩

theorem spawned_killing {last : Reply} {other : String} :
    Spawned directory (.ran (killing pane) last :: events) other ↔
      Spawned directory events other := by
  simp [spawned_iff, command]

/-- Giving a tab its title spawns nothing. -/
theorem Titled.spawned_append {told : Except Error String} (titled : Titled name pane events told)
    {spawned : Reply} (first : Reply) {other : String} :
    Spawned directory (events ++ [.ran (spawning directory) spawned, .ran listing first]) other ↔
      spawnedPane? spawned = some other := by
  rw [spawned_iff]
  cases titled <;> simp [command]

/-- **No pane without its title is left.** Where a pane was spawned and the making of the window
fails all the same, the last command kills this pane, and what is told is the error of the command
before, which was to give the tab its title or to list the panes. Nothing else is killed: not where
a window is made, and not where no pane was spawned. And where a window is made, the tab of its pane
was given the very name by a command that exited with 0. -/
theorem createWindow_leaves_no_orphan (name directory : String) :
    Emits (createWindow name directory : Result ω Window).run fun events result =>
      (∀ pane, Spawned directory events pane → ∀ e, result = .error e →
        ∃ last step reply earlier,
          events = .ran (killing pane) last :: .ran step reply :: earlier ∧
          RunsOnly (fun c => ¬ c.Destructive) (.ran step reply :: earlier) ∧
          (step = titling name pane ∧ resultOf "set-tab-title" reply = .error e ∨
            step = listing ∧ panesOf reply = .error e)) ∧
      ((result.isOk ∨ ∀ pane, ¬ Spawned directory events pane) →
        RunsOnly (fun c => ¬ c.Destructive) events) ∧
      ∀ window, result = .ok window → window.name = name ∧ Spawned directory events window.pane ∧
        ∃ output, .ran (titling name window.pane) (.ok output) ∈ events ∧ output.success = true := by
  refine (createWindow_created name directory).mono fun events result created => ?_
  cases created with
  | unspawned first e =>
    have none : ∀ pane, ¬ Spawned directory [.ran listing first] pane := by
      simp [spawned_iff, command]
    exact ⟨fun pane spawned => absurd spawned (none pane),
      fun _ => runsOnly_ran (mild_of_verb _ (by decide)) first, fun _ same => by cases same⟩
  | @unnamed reply unread first e =>
    have none : ∀ pane, ¬ Spawned directory
        [.ran (spawning directory) reply, .ran listing first] pane := by
      simp [spawned_iff, command, unread]
    exact ⟨fun pane spawned => absurd spawned (none pane), fun _ => spawning_harmless reply first,
      fun _ same => by cases same⟩
  | @kept spawned pane id events named titled first =>
    have made : ∀ e, (.ok { name, id, pane } : Except Error Window) ≠ .error e :=
      fun _ same => by cases same
    refine ⟨fun _ _ e same => absurd same (made e), fun _ => titled.harmless spawned first,
      fun window same => ?_⟩
    cases same
    refine ⟨rfl, (titled.spawned_append first).mpr named, ?_⟩
    cases titled with
    | listed titled read =>
      obtain ⟨rfl, success⟩ := resultOf_eq_ok titled
      exact ⟨_, by simp, success⟩
  | @killed spawned pane events e named untitled first last =>
    have harmless : RunsOnly _ (events ++ [.ran (spawning directory) spawned, .ran listing first]) :=
      untitled.harmless spawned first
    have known (other : String) : Spawned directory (.ran (killing pane) last ::
        (events ++ [.ran (spawning directory) spawned, .ran listing first])) other ↔
          some pane = some other := by
      rw [spawned_killing, untitled.spawned_append first, named]
    refine ⟨fun other spawned e' same => ?_, fun spared => ?_, fun _ same => by cases same⟩
    · cases (known other).mp spawned
      cases same
      cases untitled with
      | untitled refused => exact ⟨last, _, _, _, rfl, harmless, .inl ⟨rfl, refused⟩⟩
      | unlisted titled unread => exact ⟨last, _, _, _, rfl, harmless, .inr ⟨rfl, unread⟩⟩
    · obtain ok | none := spared
      · cases ok
      · exact absurd ((known pane).mpr rfl) (none pane)

end Worktop.Mux.Wezterm

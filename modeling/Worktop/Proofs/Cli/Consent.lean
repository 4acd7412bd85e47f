import Worktop.Cli.Run
import Worktop.Proofs.Queries

/-! # Consent to a removal

A command line finds out what it works with before it asks anybody: it runs a few queries and looks
at the configuration files. All that is left behind by that is what the outside made of the queries
(`Worktop.Session.Consulted`), so a removal that is not agreed to has done nothing. Main statement:
`Worktop.Cli.remove_needs_consent`.
-/

namespace Worktop

open Act

variable {ω α β ε : Type}

/-! ## Acts that look -/

/-- A command was run, or a file was looked at or read. -/
def Event.Looking : Event → Prop
  | .ran .. | .looked .. | .read .. => True
  | _ => False

/-- A session has gone on by running some commands and looking at files, and by nothing else: the
outside and the files are what the answers to these commands made of them. -/
structure Session.Consulted (host : Host ω) (s : Session ω) (asked : List Command)
    (s' : Session ω) : Prop where
  commands : s'.commands = s.commands ++ asked
  answered : (s'.outside, s'.files) = host.answerAll asked (s.outside, s.files)
  locks : s'.locks = s.locks
  journal : ∃ events, s'.journal = events ++ s.journal ∧ ∀ event ∈ events, event.Looking

theorem Host.answerAll_append (host : Host ω) (first rest : List Command)
    (place : ω × FileSystem) :
    host.answerAll (first ++ rest) place = host.answerAll rest (host.answerAll first place) := by
  induction first generalizing place with
  | nil => rfl
  | cons command first ih => exact ih _

namespace Session

variable {host : Host ω} {s s1 s2 : Session ω} {first rest : List Command}

theorem consulted_nil (host : Host ω) (s : Session ω) : s.Consulted host [] s where
  commands := (List.append_nil _).symm
  answered := rfl
  locks := rfl
  journal := ⟨[], rfl, fun _ member => absurd member List.not_mem_nil⟩

theorem Consulted.trans (before : s.Consulted host first s1) (after : s1.Consulted host rest s2) :
    s.Consulted host (first ++ rest) s2 where
  commands := by rw [after.commands, before.commands, List.append_assoc]
  answered := by rw [after.answered, before.answered, Host.answerAll_append]
  locks := after.locks.trans before.locks
  journal := by
    obtain ⟨old, journal, looking⟩ := before.journal
    obtain ⟨new, journal', looking'⟩ := after.journal
    refine ⟨new ++ old, by rw [journal', journal, List.append_assoc], fun event member => ?_⟩
    rcases List.mem_append.mp member with later | earlier
    · exact looking' event later
    · exact looking event earlier

/-- What is noted without running anything has to be a look. -/
theorem consulted_note (host : Host ω) (s : Session ω) {event : Event}
    (silent : event.command? = none) (looking : event.Looking) :
    s.Consulted host [] (s.note event) where
  commands := by simp [commands, note, silent]
  answered := rfl
  locks := rfl
  journal := ⟨[event], rfl, fun _ member => List.mem_singleton.mp member ▸ looking⟩

theorem consulted_exec (host : Host ω) (s : Session ω) (command : Command) :
    s.Consulted host [command] ((Act.exec command).perform host s).2 where
  commands := commands_ran _ command _
  answered := rfl
  locks := rfl
  journal := ⟨[_], rfl, fun _ member => List.mem_singleton.mp member ▸ trivial⟩

theorem consulted_asked (host : Host ω) (s : Session ω) (commands : List Command) :
    s.Consulted host commands (s.asked host commands) := by
  induction commands generalizing s with
  | nil => exact consulted_nil host s
  | cons command rest ih => exact (consulted_exec host s command).trans (ih _)

end Session

namespace Act

/-- Whatever the outside answers, an act runs just these commands in this order, and does nothing
else but look at files. -/
def Consults (act : Act ω α) (commands : List Command) : Prop :=
  ∀ (host : Host ω) (s : Session ω), s.Consulted host commands (act.perform host s).2

theorem Asks.consults {act : Act ω α} {commands : List Command} (asks : act.Asks commands) :
    act.Consults commands := by
  intro host s
  rw [asks host s]
  exact Session.consulted_asked host s commands

theorem consults_pure (a : α) : Consults (pure a : Act ω α) [] :=
  fun host s => Session.consulted_nil host s

theorem consults_pathExists (path : String) : Consults (pathExists path : Act ω Bool) [] :=
  fun host s => Session.consulted_note host s rfl trivial

theorem consults_readText (path : String) :
    Consults (readText path : Act ω (Except SystemError String)) [] :=
  fun host s => Session.consulted_note host s rfl trivial

theorem Consults.bind {x : Act ω α} {f : α → Act ω β} {first rest : List Command}
    (before : x.Consults first) (after : ∀ a, (f a).Consults rest) :
    Act.Consults (x >>= f) (first ++ rest) :=
  fun host s => (before host s).trans (after _ host _)

theorem Consults.lift_bind {x : Act ω α} {f : α → ExceptT ε (Act ω) β}
    {first rest : List Command} (before : x.Consults first)
    (after : ∀ a, Consults (f a).run rest) : Consults (ExceptT.lift x >>= f).run (first ++ rest) :=
  fun host s => (before host s).trans (after _ host _)

end Act

/-! ## What a command line finds out -/

namespace Worktree

theorem listFrom_asks (directory : String) :
    Asks (listFrom directory : Result ω (List Entry)).run
      [git directory ["worktree", "list", "--porcelain"]] :=
  (Repository.list_reads (r := { root := directory, base := "" })).asks

theorem mainRoot_asks (directory : String) :
    Asks (mainRoot directory : Result ω String).run
      [git directory ["worktree", "list", "--porcelain"]] := by
  unfold mainRoot
  apply (listFrom_asks directory).andThen
  intro entries
  split
  · exact asks_ok _
  · exact asks_error _

end Worktree

theorem Repository.commonDirectory_asks (r : Repository) :
    Asks (r.commonDirectory : Worktree.Result ω String).run
      [r.git ["rev-parse", "--git-common-dir"]] := by
  unfold commonDirectory
  apply (Worktree.exec_reads _).asks.andThen
  intro output
  split
  · exact asks_ok _
  · exact asks_error _

theorem Config.loadFirst_consults (paths : List String) :
    Consults (loadFirst paths : Act ω (Except Error Config)) [] := by
  induction paths with
  | nil => exact consults_pure _
  | cons path rest ih =>
    unfold loadFirst
    apply (consults_pathExists path).bind
    intro found
    split
    · unfold ofFile
      apply (consults_readText path).bind
      intro text
      split
      · exact consults_pure _
      · exact consults_pure _
    · exact ih

namespace Cli

/-- The command that tells the shell which tmux starts. -/
def shellQuery : Command :=
  Mux.Tmux.command none ["show-options", "-gv", "default-shell"]

/-- What a command line asks before it does anything: which worktrees there are, where it is to
work; in the main worktree, which directory all of them share; and which shell tmux starts. -/
def queries (around : Surroundings) (directory : Option String) (root : String) : List Command :=
  [Worktree.git (directory.getD around.directory) ["worktree", "list", "--porcelain"],
    Worktree.git root ["rev-parse", "--git-common-dir"], shellQuery]

/-- Only tmux is asked for its shell. -/
theorem defaultShell_consults (kind : Mux.Kind) :
    ∃ asked, asked <+: [shellQuery] ∧
      Consults (({ kind } : Multiplexer).defaultShell : Act ω (Option String)) asked := by
  cases kind with
  | wezterm => exact ⟨[], List.nil_prefix, consults_pure none⟩
  | tmux =>
    have asks : Asks (Mux.Tmux.defaultShell none : Act ω (Option String)) [shellQuery] := by
      apply (asks_exec shellQuery).bind
      intro reply
      cases reply with
      | error e => exact asks_pure none
      | ok output => exact asks_pure _
    exact ⟨[shellQuery], List.prefix_refl _, asks.consults⟩

variable {host : Host ω} {s s1 : Session ω} {around : Surroundings}

theorem attempt_ok {act : ExceptT ε (Act ω) α} {blame : ε → Error} {a : α}
    (done : act.run.perform host s = (.ok a, s1)) :
    (attempt act blame).run.perform host s = (.ok a, s1) :=
  perform_lift_bind done

theorem attempt_error {act : ExceptT ε (Act ω) α} {blame : ε → Error} {e : ε}
    (failed : act.run.perform host s = (.error e, s1)) :
    (attempt act blame).run.perform host s = (.error (blame e), s1) :=
  perform_lift_bind failed

/-- What the commands work with, once the repository and its configuration are known. -/
def settle (around : Surroundings) (root : String) (config : Config) : Task ω (Config × Setup) := do
  let repository : Repository := { root, base := config.worktreeBase root }
  let mux : Multiplexer := { kind := Mux.Kind.select config.backend around.env }
  let lockDirectory ←
    match ← ExceptT.lift repository.commonDirectory.run with
    | .ok common => pure (some (Path.join common "tidymux/locks"))
    | .error _ => pure none
  let ofMux ← ExceptT.lift mux.defaultShell
  let shell := LoginShell.resolve config.shell ofMux around.env
  pure (config,
    { repository, mux, shell, lockTable := { directory := lockDirectory },
      windowPrefix := config.windowPrefix })

theorem setUp_eq (around : Surroundings) (directory : Option String) :
    (setUp around directory : Task ω (Config × Setup)) = (do
      require around "git"
      let root ← attempt (Worktree.mainRoot (directory.getD around.directory)) .worktree
      let config ← attempt (ExceptT.mk (Config.load around.env root)) .config
      settle around root config) := rfl

theorem settle_consults (around : Surroundings) (root : String) (config : Config) :
    ∃ asked, asked <+: [Worktree.git root ["rev-parse", "--git-common-dir"], shellQuery] ∧
      Consults (settle around root config : Task ω (Config × Setup)).run asked := by
  obtain ⟨asked, front, asks⟩ :=
    @defaultShell_consults ω (Mux.Kind.select config.backend around.env)
  have resolves : ∀ f : Option String → Config × Setup, Consults (ExceptT.lift
      ({ kind := Mux.Kind.select config.backend around.env } : Multiplexer).defaultShell >>=
        fun ofMux => pure (f ofMux) : Task ω (Config × Setup)).run asked := by
    intro f
    rw [← List.append_nil asked]
    exact asks.lift_bind fun ofMux => consults_pure _
  refine ⟨[_] ++ asked, (List.prefix_append_right_inj _).mpr front, ?_⟩
  have shares := (Repository.commonDirectory_asks (ω := ω)
    { root, base := config.worktreeBase root }).consults
  apply shares.lift_bind
  -- Whether or not the common directory is known, the shell is asked for next.
  intro common
  cases common <;>
  · dsimp only
    rw [pure_bind]
    exact resolves _

theorem require_ok {program : String} (found : around.programs.contains program = true) :
    (require around program : Task ω Unit).run.perform host s = (.ok (), s) := by
  rw [require, if_pos found]
  rfl

theorem require_missing {program : String} (missing : ¬ around.programs.contains program = true) :
    (require around program : Task ω Unit).run.perform host s =
      (.error (.programMissing program), s) := by
  rw [require, if_neg missing]
  rfl

/-- Up to where it may fail, a command line asks the first few of its queries. -/
theorem setUp_consults (around : Surroundings) (directory : Option String) (host : Host ω)
    (s : Session ω) :
    ∃ root asked, asked <+: queries around directory root ∧
      s.Consulted host asked ((setUp around directory).run.perform host s).2 := by
  rw [setUp_eq]
  by_cases git : around.programs.contains "git" = true
  case neg =>
    rw [perform_bind_error (require_missing git)]
    exact ⟨"", [], List.nil_prefix, Session.consulted_nil host s⟩
  rw [perform_bind_ok (require_ok git)]
  have listed := (Worktree.mainRoot_asks (directory.getD around.directory)).consults host s
  cases main : (Worktree.mainRoot (directory.getD around.directory)).run.perform host s with
  | mk result s1 =>
  rw [main] at listed
  cases result with
  | error e =>
    rw [perform_bind_error (attempt_error main)]
    exact ⟨"", _, ⟨[_, _], rfl⟩, listed⟩
  | ok root =>
  rw [perform_bind_ok (attempt_ok main)]
  have looked := listed.trans (Config.loadFirst_consults (Config.paths around.env root) host s1)
  cases loaded : (ExceptT.mk (Config.load around.env root)).run.perform host s1 with
  | mk result s2 =>
  rw [show (Config.loadFirst _).perform host s1 = (result, s2) from loaded] at looked
  cases result with
  | error e =>
    rw [perform_bind_error (attempt_error loaded)]
    exact ⟨"", _, ⟨[_, _], rfl⟩, looked⟩
  | ok config =>
  rw [perform_bind_ok (attempt_ok loaded)]
  obtain ⟨asked, front, consults⟩ := @settle_consults ω around root config
  exact ⟨root, _, (List.prefix_append_right_inj _).mpr front, looked.trans (consults host s2)⟩

/-! ## Removals -/

/-- A terminal was asked, and the line typed there is a yes. -/
def Agreed (around : Surroundings) : Prop :=
  ∃ typed, around.typed = some typed ∧
    Text.trim (Terminal.line typed) ∈ ["y", "Y", "yes"]

instance (around : Surroundings) : Decidable (Agreed around) :=
  match typed : around.typed with
  | none => .isFalse fun ⟨_, same, _⟩ => nomatch typed.symm.trans same
  | some line => decidable_of_iff (Text.trim (Terminal.line line) ∈ ["y", "Y", "yes"])
      ⟨fun yes => ⟨line, typed, yes⟩, fun ⟨_, same, yes⟩ => by
        cases typed.symm.trans same
        exact yes⟩

theorem saysYes_iff (line : String) :
    Terminal.saysYes line = true ↔ Text.trim line ∈ ["y", "Y", "yes"] := by
  unfold Terminal.saysYes
  exact List.contains_iff_mem

variable {setup : Setup} {branch : String} {force : Bool}

/-- Where nobody agrees, nothing is done. -/
theorem remove_of_refused (setup : Setup) (branch : String) (refused : ¬ Agreed around)
    (host : Host ω) (s : Session ω) :
    ∃ result, (remove around setup branch false).run.perform host s = (result, s) ∧
      ∀ ending, result = .ok ending → ending.exitCode = 1 := by
  unfold remove
  rw [if_neg (by decide)]
  cases typed : around.typed with
  | none => exact ⟨_, rfl, nofun⟩
  | some line =>
    have no : ¬ Terminal.saysYes (Terminal.line line) = true :=
      fun yes => refused ⟨line, typed, (saysYes_iff _).mp yes⟩
    dsimp only
    rw [if_neg no]
    refine ⟨_, rfl, ?_⟩
    rintro _ ⟨⟩
    rfl

/-- Where the removal is forced or agreed to, it is done, and told as it went. -/
theorem remove_of_agreed (consent : force = true ∨ Agreed around)
    {after : Session ω} {o : Lifecycle.Outcome Lifecycle.RemoveState}
    (removed : (Lifecycle.remove setup branch force).perform host s = (o, after)) :
    ∃ e : Ending, (remove around setup branch force).run.perform host s = (.ok e, after) ∧
      e.stderr = complaints o ∧ e.exitCode = if o.succeeded then 0 else 1 := by
  have done : (removeNow setup branch force).run.perform host s =
      (.ok (ending o [s!"Workspace '{branch}' removed"]), after) :=
    perform_lift_bind removed
  unfold remove
  cases force with
  | true => exact ⟨_, done, rfl, rfl⟩
  | false =>
    obtain ⟨line, typed, yes⟩ := consent.resolve_left Bool.false_ne_true
    rw [if_neg (by decide), typed]
    dsimp only
    rw [if_pos ((saysYes_iff _).mpr yes), perform_bind_ok done]
    exact ⟨_, rfl, rfl, rfl⟩

/-- The removal of a branch was reached, and came to an outcome and a session. -/
def Removes (around : Surroundings) (directory : Option String) (branch : String) (force : Bool)
    (host : Host ω) (s : Session ω) (o : Lifecycle.Outcome Lifecycle.RemoveState)
    (after : Session ω) : Prop :=
  ∃ config setup ready,
    (setUp around directory).run.perform host s = (.ok (config, setup), ready) ∧
      (Lifecycle.remove setup branch force).perform host ready = (o, after)

theorem Removes.unique {directory : Option String} {after after' : Session ω}
    {o o' : Lifecycle.Outcome Lifecycle.RemoveState}
    (one : Removes around directory branch force host s o after)
    (other : Removes around directory branch force host s o' after') :
    o = o' ∧ after = after' := by
  obtain ⟨config, setup, ready, found, removed⟩ := one
  obtain ⟨config', setup', ready', found', removed'⟩ := other
  cases found.symm.trans found'
  cases removed.symm.trans removed'
  exact ⟨rfl, rfl⟩

/-! ## The command line -/

section Run

variable {args : List String} {invocation : Invocation}

theorem run_of_error {e : Error} (parsed : Arguments.parse args = .run invocation)
    (failed : (perform around invocation).run.perform host s = (.error e, s1)) :
    (run around args).perform host s =
      ({ stderr := s!"error: {e.message}\n", exitCode := 1 }, s1) := by
  unfold run
  rw [parsed]
  dsimp only
  rw [perform_bind failed]
  rfl

theorem run_of_ok {e : Ending} (parsed : Arguments.parse args = .run invocation)
    (done : (perform around invocation).run.perform host s = (.ok e, s1)) :
    (run around args).perform host s = (e, s1) := by
  unfold run
  rw [parsed]
  dsimp only
  rw [perform_bind done]
  rfl

/-- Once all is found out, a removal comes down to itself. -/
theorem perform_of_setUp {config : Config} (removes : invocation.request = .remove branch force)
    (found : (setUp around invocation.directory).run.perform host s = (.ok (config, setup), s1)) :
    (perform around invocation).run.perform host s =
      (remove around setup branch force).run.perform host s1 := by
  unfold perform
  rw [perform_bind_ok found]
  dsimp only
  rw [removes]

theorem run_of_refused (parsed : Arguments.parse args = .run invocation)
    (removes : invocation.request = .remove branch false) (refused : ¬ Agreed around)
    (host : Host ω) (s : Session ω) :
    ((run around args).perform host s).1.exitCode = 1 ∧
      ((run around args).perform host s).2 =
        ((setUp around invocation.directory).run.perform host s).2 := by
  cases found : (setUp around invocation.directory).run.perform host s with
  | mk result ready =>
  cases result with
  | error e =>
    have failed : (perform around invocation).run.perform host s = (.error e, ready) :=
      perform_bind_error found
    rw [run_of_error parsed failed]
    exact ⟨rfl, rfl⟩
  | ok configured =>
    obtain ⟨config, setup⟩ := configured
    obtain ⟨result, nothing, failing⟩ := remove_of_refused setup branch refused host ready
    have stopped := (perform_of_setUp removes found).trans nothing
    cases result with
    | error e =>
      rw [run_of_error parsed stopped]
      exact ⟨rfl, rfl⟩
    | ok ending =>
      rw [run_of_ok parsed stopped]
      exact ⟨failing ending rfl, rfl⟩

/-- A removal that is forced or agreed to fails before it is reached, or is told as it went. -/
theorem run_of_agreed (parsed : Arguments.parse args = .run invocation)
    (removes : invocation.request = .remove branch force) (consent : force = true ∨ Agreed around)
    (host : Host ω) (s : Session ω) :
    let r := (run around args).perform host s
    (r.1.exitCode = 1 ∧
      ∀ o after, ¬ Removes around invocation.directory branch force host s o after) ∨
    ∃ o, Removes around invocation.directory branch force host s o r.2 ∧
      r.1.stderr = complaints o ∧ r.1.exitCode = if o.succeeded then 0 else 1 := by
  intro r
  cases found : (setUp around invocation.directory).run.perform host s with
  | mk result ready =>
  cases result with
  | error e =>
    have failed : (perform around invocation).run.perform host s = (.error e, ready) :=
      perform_bind_error found
    have stopped : r = _ := run_of_error parsed failed
    rw [stopped]
    exact .inl ⟨rfl, fun o after ⟨_, _, _, found', _⟩ => nomatch found.symm.trans found'⟩
  | ok configured =>
    obtain ⟨config, setup⟩ := configured
    cases removed : (Lifecycle.remove setup branch force).perform host ready with
    | mk o after =>
    obtain ⟨e, done, told, code⟩ := remove_of_agreed consent removed
    have ended : r = (e, after) := run_of_ok parsed ((perform_of_setUp removes found).trans done)
    rw [ended]
    exact .inr ⟨o, ⟨config, setup, ready, found, removed⟩, told, code⟩

/-- **Nothing is removed without consent.** Where a removal is neither forced nor agreed to, it
fails, and the command line has done nothing but ask some of its queries and look at files. One that
is forced or agreed to succeeds exactly if the removal is reached and succeeds, and then each of its
warnings and after them each of its errors is told. -/
theorem remove_needs_consent (parsed : Arguments.parse args = .run invocation)
    (removes : invocation.request = .remove branch force) (host : Host ω) (s : Session ω) :
    let r := (run around args).perform host s
    (force = false → ¬ Agreed around → r.1.exitCode = 1 ∧
      ∃ root asked, asked <+: queries around invocation.directory root ∧
        s.Consulted host asked r.2) ∧
    (force = true ∨ Agreed around →
      (r.1.exitCode = 0 ↔ ∃ o, Removes around invocation.directory branch force host s o r.2 ∧
        o.succeeded = true) ∧
      ∀ o after, Removes around invocation.directory branch force host s o after →
        after = r.2 ∧ r.1.stderr = unlines
          (o.warnings.map (fun w => "warning: " ++ w.message) ++
            o.errors.map fun e => "error: " ++ e.message)) := by
  intro r
  constructor
  · intro unforced refused
    subst unforced
    obtain ⟨code, state⟩ := run_of_refused parsed removes refused host s
    refine ⟨code, ?_⟩
    rw [show r.2 = _ from state]
    exact setUp_consults around invocation.directory host s
  · intro consent
    rcases run_of_agreed parsed removes consent host s with
      ⟨code, unreached⟩ | ⟨o, reached, told, code⟩
    · have failing : r.1.exitCode = 1 := code
      refine ⟨iff_of_false (by simp [failing]) ?_, fun o after reached => ?_⟩
      · exact fun ⟨o, reached, _⟩ => unreached o _ reached
      · exact absurd reached (unreached o after)
    · have exit : r.1.exitCode = if o.succeeded then 0 else 1 := code
      refine ⟨⟨fun zero => ⟨o, reached, ?_⟩, fun ⟨o', reached', success⟩ => ?_⟩,
        fun o' after reached' => ?_⟩
      · cases success : o.succeeded with
        | true => rfl
        | false => simp [exit, success] at zero
      · obtain ⟨rfl, -⟩ := reached.unique reached'
        rw [exit, success]
        rfl
      · obtain ⟨rfl, rfl⟩ := reached.unique reached'
        exact ⟨rfl, told⟩

/-- A repository on a terminal where something is typed. -/
def hesitant (typed : Option String) : Surroundings where
  directory := "/work/demo"
  programs := ["git"]
  typed

/-- git tells the main worktree and the directory for locks, tmux its shell, and everything is found
and removed after that. -/
def answering : Session Script where
  outside :=
    [{ outcome := .ok { stdout := "worktree /work\nHEAD 1111111\nbranch refs/heads/main\n\n" } },
      { outcome := .ok { stdout := ".git\n" } }, { outcome := .ok { stdout := "/bin/bash\n" } },
      { outcome := .ok { stdout := "worktree /work\nHEAD 1111111\nbranch refs/heads/main\n\n" } },
      { outcome := .ok {} }, { outcome := .ok { stdout := "@1\ttm-demo\n" } }]

theorem hesitant_remove_needs_consent :
    ¬ Agreed (hesitant (some "yeah\n")) ∧ Agreed (hesitant (some " yes\n")) ∧
      ((run (hesitant (some "yeah\n")) ["rm", "-v", "demo"]).perform Script.host
        answering).1.exitCode = 1 ∧
      (((run (hesitant (some " yes\n")) ["rm", "-v", "demo"]).perform Script.host
        answering).1.exitCode = 0 ↔ ∃ o, Removes (hesitant (some " yes\n")) none "demo" false
          Script.host answering o ((run (hesitant (some " yes\n")) ["rm", "-v", "demo"]).perform
            Script.host answering).2 ∧ o.succeeded = true) := by
  have parsed : Arguments.parse ["rm", "-v", "demo"] =
      .run { verbose := true, request := .remove "demo" false } := by
    decide +kernel
  have no : ¬ Agreed (hesitant (some "yeah\n")) := by decide +kernel
  have yes : Agreed (hesitant (some " yes\n")) := by decide +kernel
  exact ⟨no, yes, ((remove_needs_consent parsed rfl Script.host answering).1 rfl no).1,
    ((remove_needs_consent parsed rfl Script.host answering).2 (.inr yes)).1⟩

end Run

end Cli

end Worktop

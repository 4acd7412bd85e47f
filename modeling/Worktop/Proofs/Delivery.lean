import Worktop.Proofs.Layout
import Worktop.Rehearsal

/-! # Commands that are delivered to panes

An attempt to type a command into its pane runs one or two commands
(`Worktop.Multiplexer.Delivers`), and whatever comes of it, the next one is made: a delivery that
fails is only warned of (`Worktop.Lifecycle.Add.Dispatched`). So an addition that comes to deliver
commands ends ready (`Worktop.Lifecycle.failed_deliveries_are_warnings`), and one that ends ready
has laid its panes out and attempted all deliveries
(`Worktop.Lifecycle.ready_add_lays_panes_out`).
-/

namespace Worktop

open Act hiding gives_lift_bind
open Event (ranAs)

variable {ω α : Type}

/-! ## Single attempts -/

namespace Mux

/-- Why a command of tmux counts as failed, if it does. -/
def Tmux.failureOf? (operation : String) : Reply → Option Error
  | .error e => some (.unavailable .tmux e.reason.message)
  | .ok output =>
    if output.success then none
    else if saysNoServer output.complaint then some (.unavailable .tmux output.complaint)
    else some (.commandFailed .tmux operation output.complaint)

/-- Why a command of WezTerm counts as failed, if it does. -/
def Wezterm.failureOf? (operation : String) : Reply → Option Error
  | .error e => some (.unavailable .wezterm e.reason.message)
  | .ok output =>
    if output.success then none else some (.commandFailed .wezterm operation output.complaint)

/-- A result of which only the failure counts. -/
def FailsWith (failure? : Option Error) (result : Except Error α) : Prop :=
  match failure? with
  | none => result.isOk
  | some e => result = .error e

theorem Tmux.run_fails (operation : String) (c : Command) :
    Emits (run operation c : Result ω Output).run fun events result =>
      ∃ reply, events = [.ran c reply] ∧ FailsWith (failureOf? operation reply) result := by
  refine (run_reads operation c).emits.mono fun events result given => ?_
  obtain ⟨reply, rfl, rfl⟩ := given
  refine ⟨reply, rfl, ?_⟩
  cases reply with
  | error e => rfl
  | ok output =>
    by_cases success : output.success = true
    · simp [failureOf?, resultOf, success, FailsWith, Except.isOk, Except.toBool]
    · by_cases gone : saysNoServer output.complaint = true <;>
        simp [failureOf?, resultOf, success, gone, FailsWith]

theorem Wezterm.run_fails (operation : String) (args : List String) :
    Emits (run operation args : Result ω Output).run fun events result =>
      ∃ reply, events = [.ran (command args) reply] ∧
        FailsWith (failureOf? operation reply) result := by
  refine (run_tells operation args).mono fun events result given => ?_
  obtain ⟨reply, rfl, rfl⟩ := given
  refine ⟨reply, rfl, ?_⟩
  cases reply with
  | error e => rfl
  | ok output =>
    by_cases success : output.success = true <;>
      simp [failureOf?, resultOf, success, FailsWith, Except.isOk, Except.toBool]

theorem failsWith_ok {failure? : Option Error} {a : α}
    (fails : FailsWith failure? (.ok a : Except Error α)) : failure? = none := by
  cases failure? with
  | none => rfl
  | some e => cases fails

theorem failsWith_error {failure? : Option Error} {e : Error}
    (fails : FailsWith failure? (.error e : Except Error α)) : failure? = some e := by
  cases failure? with
  | none => cases fails
  | some e' =>
    cases fails
    rfl

/-- A text is typed by one command, and the Enter key by another, if the first succeeded. -/
theorem Tmux.sendText_fails (socket : Option String) (pane text : String) :
    let typing := command socket ["send-keys", "-t", pane, "-l", text]
    let enterKey := command socket ["send-keys", "-t", pane, "Enter"]
    Emits (sendText socket pane text : Result ω Unit).run fun events result =>
      (∃ reply e, events = [.ran typing reply] ∧ failureOf? "send-keys" reply = some e ∧
        result = .error e) ∨
      ∃ reply last, events = [.ran enterKey last, .ran typing reply] ∧
        failureOf? "send-keys" reply = none ∧
        FailsWith (failureOf? "send-keys" last) result := by
  unfold sendText
  refine (run_fails _ _).andThen ?_ ?_
  · intro _ old given
    obtain ⟨reply, rfl, told⟩ := given
    have accepted := failsWith_ok told
    refine (run_fails _ _).andThen ?_ ?_
    · intro _ new given
      obtain ⟨last, rfl, told⟩ := given
      have entered := failsWith_ok told
      exact emits_ok (.inr ⟨reply, last, rfl, accepted, by rw [entered]; rfl⟩)
    · intro e new given
      obtain ⟨last, rfl, told⟩ := given
      exact .inr ⟨reply, last, rfl, accepted, by rw [failsWith_error told]; rfl⟩
  · intro e old given
    obtain ⟨reply, rfl, told⟩ := given
    exact .inl ⟨reply, e, rfl, failsWith_error told, rfl⟩

theorem Wezterm.sendText_fails (pane text : String) :
    Emits (sendText pane text : Result ω Unit).run fun events result =>
      ∃ reply, events = [.ran (command
          ["send-text", "--pane-id", pane, "--no-paste", text ++ "\r"]) reply] ∧
        FailsWith (failureOf? "send-text" reply) result := by
  unfold sendText
  refine (run_fails _ _).andThen ?_ ?_
  · intro _ old given
    obtain ⟨reply, rfl, told⟩ := given
    exact emits_ok ⟨reply, rfl, by rw [failsWith_ok told]; rfl⟩
  · intro e old given
    obtain ⟨reply, rfl, told⟩ := given
    exact ⟨reply, rfl, by rw [failsWith_error told]; rfl⟩

end Mux

/-- An attempt to type a text into a pane: what was run for it, with the replies, and why it failed,
if it did. -/
structure Delivery where
  pane : String
  text : String
  ran : List (Command × Reply)
  failure? : Option Mux.Error

namespace Multiplexer

/-- The command that types a text into a pane, with the Enter key only for WezTerm. -/
def typing (m : Multiplexer) (pane text : String) : Command :=
  match m.kind with
  | .tmux => Mux.Tmux.command m.socket ["send-keys", "-t", pane, "-l", text]
  | .wezterm =>
    Mux.Wezterm.command ["send-text", "--pane-id", pane, "--no-paste", text ++ "\r"]

/-- The command that types the Enter key into a pane of tmux. -/
def enterKey (m : Multiplexer) (pane : String) : Command :=
  Mux.Tmux.command m.socket ["send-keys", "-t", pane, "Enter"]

/-- Why a command that types counts as failed, if it does. -/
def refusal? (m : Multiplexer) (reply : Reply) : Option Mux.Error :=
  match m.kind with
  | .tmux => Mux.Tmux.failureOf? "send-keys" reply
  | .wezterm => Mux.Wezterm.failureOf? "send-text" reply

/-- How an attempt may go: the text is refused; or it is typed, and then, in tmux, the Enter
key. -/
inductive Delivers (m : Multiplexer) : Delivery → Prop
  | refused {pane text : String} {reply : Reply} {e : Mux.Error}
      (told : m.refusal? reply = some e) :
      Delivers m { pane, text, ran := [(m.typing pane text, reply)], failure? := some e }
  | typed {pane text : String} {reply : Reply} (kind : m.kind = .wezterm)
      (told : m.refusal? reply = none) :
      Delivers m { pane, text, ran := [(m.typing pane text, reply)], failure? := none }
  | entered {pane text : String} {reply last : Reply} (kind : m.kind = .tmux)
      (told : m.refusal? reply = none) :
      Delivers m
        { pane, text, ran := [(m.typing pane text, reply), (m.enterKey pane, last)],
          failure? := m.refusal? last }

variable {m : Multiplexer}

theorem refusal?_eq_none_iff {reply : Reply} : m.refusal? reply = none ↔ reply.Succeeded := by
  unfold refusal? Reply.Succeeded
  cases reply with
  | error e => cases m.kind <;> simp [Mux.Tmux.failureOf?, Mux.Wezterm.failureOf?]
  | ok output =>
    cases m.kind with
    | tmux =>
      simp only [Mux.Tmux.failureOf?, Except.ok.injEq, exists_eq_left']
      split
      · simp_all
      · split <;> simp_all
    | wezterm =>
      simp only [Mux.Wezterm.failureOf?, Except.ok.injEq, exists_eq_left']
      split <;> simp_all

theorem enterKey_ne_typing (kind : m.kind = .tmux) (pane text : String) :
    m.enterKey pane ≠ m.typing pane text := by
  unfold enterKey typing Mux.Tmux.command
  rw [kind]
  cases m.socket <;> simp

/-- In tmux the Enter key follows a text exactly if the text was accepted. -/
theorem Delivers.enters_iff {d : Delivery} (delivers : m.Delivers d) (kind : m.kind = .tmux) :
    m.enterKey d.pane ∈ d.ran.map Prod.fst ↔
      ∃ reply, (m.typing d.pane d.text, reply) ∈ d.ran ∧ reply.Succeeded := by
  cases delivers with
  | @refused pane text reply e told =>
    refine iff_of_false ?_ ?_
    · simpa using enterKey_ne_typing kind pane text
    · rintro ⟨reply', member, succeeded⟩
      cases List.mem_singleton.mp member
      rw [refusal?_eq_none_iff.mpr succeeded] at told
      cases told
  | typed wezterm told =>
    rw [kind] at wezterm
    cases wezterm
  | @entered pane text reply last _ told =>
    have entered : m.enterKey pane ∈ [m.typing pane text, m.enterKey pane] := by simp
    exact iff_of_true entered ⟨reply, List.mem_cons_self, refusal?_eq_none_iff.mp told⟩

theorem role?_typing (m : Multiplexer) (pane text : String) :
    (m.typing pane text).role? = some .send := by
  unfold typing
  cases m.kind with
  | tmux => exact Command.role?_tmux _ _ (by decide)
  | wezterm => exact Command.role?_wezterm _ _

theorem role?_enterKey (m : Multiplexer) (pane : String) :
    (m.enterKey pane).role? = some .send :=
  Command.role?_tmux _ _ (by decide)

/-- Typing a text into a pane is an attempt to deliver it. -/
theorem sendText_delivers (m : Multiplexer) (pane text : String) :
    Emits (m.sendText pane text : Mux.Result ω Unit).run fun events result =>
      ∃ d, m.Delivers d ∧ d.pane = pane ∧ d.text = text ∧ ranAs .send events = d.ran ∧
        Mux.FailsWith d.failure? result := by
  have ran : ∀ reply old, ranAs .send (.ran (m.typing pane text) reply :: old) =
      ranAs .send old ++ [(m.typing pane text, reply)] :=
    fun reply old => Event.ranAs_cons_of_role (m.role?_typing pane text) reply old
  cases kind : m.kind with
  | tmux =>
    have typing : m.typing pane text =
        Mux.Tmux.command m.socket ["send-keys", "-t", pane, "-l", text] := by
      simp [Multiplexer.typing, kind]
    have refusal : ∀ reply, m.refusal? reply = Mux.Tmux.failureOf? "send-keys" reply := by
      simp [refusal?, kind]
    unfold sendText
    rw [kind]
    apply (Mux.Tmux.sendText_fails m.socket pane text).mono
    intro events result given
    rw [← typing] at given
    simp only [← refusal] at given
    rcases given with ⟨reply, e, rfl, told, rfl⟩ | ⟨reply, last, rfl, told, fails⟩
    · exact ⟨_, .refused told, rfl, rfl, ran reply [], rfl⟩
    · refine ⟨_, .entered kind told, rfl, rfl, ?_, fails⟩
      have entered := Event.ranAs_cons_of_role (m.role?_enterKey pane) last
        [.ran (m.typing pane text) reply]
      rw [ran] at entered
      exact entered
  | wezterm =>
    have typing : m.typing pane text = Mux.Wezterm.command
        ["send-text", "--pane-id", pane, "--no-paste", text ++ "\r"] := by
      simp [Multiplexer.typing, kind]
    have refusal : ∀ reply, m.refusal? reply = Mux.Wezterm.failureOf? "send-text" reply := by
      simp [refusal?, kind]
    unfold sendText
    rw [kind]
    apply (Mux.Wezterm.sendText_fails pane text).mono
    intro events result given
    obtain ⟨reply, rfl, fails⟩ := given
    rw [← typing]
    rw [← refusal] at fails
    cases told : m.refusal? reply with
    | none => exact ⟨_, .typed kind told, rfl, rfl, ran reply [], by rwa [told] at fails⟩
    | some e => exact ⟨_, .refused told, rfl, rfl, ran reply [], by rwa [told] at fails⟩

end Multiplexer

namespace Lifecycle

namespace Add

variable {setup : Setup} {workspace : Workspace} {branch : String} {config : Config}
  {host : Host ω} {s reached : Session ω} {orders : List (String × String)}
  {progress : Progress}

/-! ## All attempts -/

/-- Deliveries were attempted, one for each command in order, and nothing else was typed. -/
structure Sends (setup : Setup) (workspace : Workspace) (orders : List (String × String))
    (sent : List Delivery) (events : List Event) : Prop where
  planned : sent.map (fun d => (d.pane, d.text)) = orders.map fun order =>
    (order.1, setup.shell.launchText order.2 setup.mux.capabilities workspace.env)
  delivers : ∀ d ∈ sent, setup.mux.Delivers d
  ran : ranAs .send events = sent.flatMap (·.ran)

/-- The warning of a delivery that failed. -/
def undelivered (e : Mux.Error) : Error :=
  { phase := .add .settingUpPanes, kind := .delivery, cause := .mux e }

/-- The warnings of deliveries that failed, in order. -/
def warningsOf (sent : List Delivery) : List Error :=
  (sent.filterMap (·.failure?)).map undelivered

/-- Deliveries were attempted and nothing else was run; those that failed were warned of. -/
structure Dispatched (setup : Setup) (workspace : Workspace) (orders : List (String × String))
    (before : Progress) (events : List Event) (result : Except Error Unit) (after : Progress)
    (sent : List Delivery) : Prop where
  done : result = .ok ()
  sends : Sends setup workspace orders sent events
  only : RunsOnly (·.role? = some .send) events
  after : after = { before with warnings := before.warnings ++ warningsOf sent }

theorem deliver_dispatches (orders : List (String × String)) (progress : Progress) :
    (deliver setup workspace orders : Adding ω Unit).Emits progress fun events result after =>
      ∃ sent, Dispatched setup workspace orders progress events result after sent := by
  induction orders generalizing progress with
  | nil =>
    apply Adding.emits_pure
    exact ⟨[], rfl, ⟨rfl, fun _ => nofun, rfl⟩, Composable.nil, by simp [warningsOf]⟩
  | cons order orders ih =>
    obtain ⟨pane, command⟩ := order
    unfold deliver
    refine Adding.emits_lift_bind ((setup.mux.sendText_delivers pane _).and
      (setup.mux.sendText_within pane _).only) ?_
    intro result old given
    obtain ⟨⟨d, delivers, rfl, text, ran, fails⟩, only⟩ := given
    -- What comes of one attempt shows in the warnings alone: the rest is done all the same.
    have rest : ∀ between, between = { progress with
        warnings := progress.warnings ++ warningsOf [d] } →
        (deliver setup workspace orders : Adding ω Unit).Emits between fun new result after =>
          ∃ sent, Dispatched setup workspace ((d.pane, command) :: orders) progress (new ++ old)
            result after sent := by
      rintro _ rfl
      apply (ih _).mono
      intro new result after given
      obtain ⟨sent, done, sends, only', rfl⟩ := given
      refine ⟨d :: sent, done, ⟨?_, ?_, ?_⟩, Composable.append only' only, ?_⟩
      · rw [List.map_cons, List.map_cons, sends.planned, text]
      · exact List.forall_mem_cons.mpr ⟨delivers, sends.delivers⟩
      · rw [Event.ranAs_append, ran, sends.ran, List.flatMap_cons]
      · cases failure : d.failure? <;> simp [warningsOf, failure]
    cases result with
    | ok _ => exact rest progress (by simp [warningsOf, Mux.failsWith_ok fails])
    | error e =>
      exact rest _ (by simp [warningsOf, undelivered, Mux.failsWith_error fails])

theorem dispatch_dispatches (setup : Setup) (workspace : Workspace) (config : Config)
    (orders : List (String × String)) (progress : Progress) :
    (dispatch setup workspace config orders : Adding ω Unit).Emits progress
      fun events result after =>
        ∃ sent, Dispatched setup workspace orders progress events result after sent := by
  unfold dispatch
  dsimp only
  split
  · apply Adding.emits_lift_bind (emits_pause _)
    rintro _ _ rfl
    apply (deliver_dispatches orders progress).mono
    intro events result after given
    obtain ⟨sent, done, sends, only, same⟩ := given
    have silent : RunsOnly (·.role? = some .send) [.paused (config.settleDelay * 1000)] :=
      runsOnly_quiet _ nofun
    refine ⟨sent, done, ⟨sends.planned, sends.delivers, ?_⟩, Composable.append only silent, same⟩
    rw [Event.ranAs_append]
    exact sends.ran
  · exact deliver_dispatches orders progress

/-! ## The whole addition -/

/-- An addition that comes to deliver commands does nothing else afterwards, and is ready. -/
theorem Reaches.ends (reaches : Reaches setup branch config host s orders progress reached) :
    let ended := (add setup branch config).perform host s
    ∃ later sent, ended.2.journal = later ++ reached.journal ∧
      Sends setup (setup.workspace branch) orders sent later ∧
      RunsOnly (·.role? = some .send) later ∧
      ended.1 =
        { state := .ready, workspace := setup.workspace branch, succeeded := true,
          created := progress.created, warnings := progress.warnings ++ warningsOf sent,
          hooks := progress.hooks } := by
  cases reaches with
  | @prepared guard s1 s2 _ _ _ locked valid prepared =>
  obtain ⟨later, journal, sent, done, sends, only, progressed⟩ :=
    dispatch_dispatches setup (setup.workspace branch) config orders progress host reached
  cases dispatched : ((dispatch setup (setup.workspace branch) config orders).run.run
    progress).perform host reached with
  | mk result s3 =>
  obtain ⟨result, after⟩ := result
  rw [dispatched] at journal done progressed
  dsimp only at journal done progressed
  subst done
  have provisioned : EndsWith (provision setup (setup.workspace branch) config) host {} s2 (.ok ())
      after s3 := by
    rw [provision_eq_prepare]
    exact (Adding.perform_bind_ok prepared).trans dispatched
  rw [perform_add locked (perform_addLocked valid (perform_build_ok provisioned)), progressed]
  refine ⟨.released guard :: later, sent, congrArg (Event.released guard :: ·) journal, ?_, ?_, rfl⟩
  · exact ⟨sends.planned, sends.delivers, sends.ran⟩
  · exact Composable.append (runsOnly_quiet (.released guard) nofun) only

theorem reaches_of_ready
    (ready : ((add setup branch config).perform host s).1.state = .ready) :
    ∃ orders progress reached, Reaches setup branch config host s orders progress reached := by
  cases lock : (acquire setup.lockTable branch : Act ω _).perform host s with
  | mk guard? s1 =>
  cases guard? with
  | error e =>
    rw [perform_add_error lock] at ready
    cases ready
  | ok guard =>
  cases verdict : (validate setup (setup.workspace branch) config).run.perform host s1 with
  | mk result s2 =>
  cases result with
  | error e =>
    rw [perform_add lock (perform_addLocked_error verdict)] at ready
    cases ready
  | ok _ =>
  cases made : ((prepare setup (setup.workspace branch) config).run.run {}).perform host s2 with
  | mk result reached =>
  obtain ⟨result, progress⟩ := result
  cases result with
  | ok orders => exact ⟨orders, progress, reached, .prepared lock verdict made⟩
  | error e =>
    have failed : EndsWith (provision setup (setup.workspace branch) config) host {} s2
        (.error e) progress reached := by
      rw [provision_eq_prepare]
      exact Adding.perform_bind_error made
    cases undone : (rollBack setup (undoOrder progress.created)).perform host reached with
    | mk told after =>
    rw [perform_add lock (perform_addLocked verdict (perform_build_error failed undone))] at ready
    cases ready

/-- What is typed changes nothing of a layout. -/
theorem LaidOut.append {panes : List String} {new old : List Event}
    (laidOut : LaidOut setup branch config panes old)
    (only : RunsOnly (·.role? = some .send) new) :
    LaidOut setup branch config panes (new ++ old) := by
  have same : ∀ role, role ≠ .send → ranAs role (new ++ old) = ranAs role old :=
    fun role different => Event.ranAs_append_of_role different only old
  obtain ⟨c, reply, alone, told⟩ := laidOut.window
  refine ⟨⟨c, reply, ?_, told⟩, laidOut.count, ?_, ?_⟩
  · rw [same .window (by decide)]
    exact alone
  · rw [same .split (by decide)]
    exact laidOut.splits
  · rw [same .split (by decide)]
    exact laidOut.replies

end Add

variable {setup : Setup} {branch : String} {config : Config} {host : Host ω}
  {s reached : Session ω} {orders : List (String × String)} {progress : Progress}

/-- **An addition lays its panes out as configured.** One that ends ready made its window, and split
off one pane for each later entry of the layout that asks for it, in order, each from the pane that
was made just before; these are the panes that it tells. Each entry with a command had that command
typed into the pane that was made last when the entry was reached, and nothing else was typed. -/
theorem ready_add_lays_panes_out
    (ready : ((add setup branch config).perform host s).1.state = .ready) :
    let ended := (add setup branch config).perform host s
    ∃ events sent, ended.2.journal = events ++ s.journal ∧
      Add.LaidOut setup branch config ended.1.panes events ∧
      Add.Sends setup (setup.workspace branch) (config.orders ended.1.panes) sent events := by
  obtain ⟨orders, progress, reached, reaches⟩ := Add.reaches_of_ready ready
  obtain ⟨earlier, journal, laidOut, same, unsent, -⟩ := reaches.laidOut
  obtain ⟨later, sent, journal', sends, only, told⟩ := reaches.ends
  have panes : ((add setup branch config).perform host s).1.panes =
      progress.created.filterMap Resource.pane? := by
    rw [told]
    rfl
  dsimp only
  rw [panes, ← same]
  refine ⟨later ++ earlier, sent, ?_, laidOut.append only, sends.planned, sends.delivers, ?_⟩
  · rw [journal', journal, List.append_assoc]
  · rw [Event.ranAs_append, unsent]
    exact sends.ran

/-- A repository with its worktrees beside it, and tmux. -/
def workshop : Setup where
  repository := { root := "repo", base := "trees" }
  mux := { kind := .tmux }
  shell := { path := "/bin/sh" }

/-- Two panes, and a third command that goes to the second of them. -/
def twoPanes : Config where
  panes :=
    [{ command := some "make" }, { command := some " ls ", split := some .vertical },
      { command := some "top" }]

/-- All goes well until texts are typed: then the first pane is gone, and so is the second one when
it has its first text. -/
def vanishing : Session Script where
  outside :=
    let gone (pane : String) : Cue :=
      { outcome := .ok { exitCode := some 1, stderr := "can't find pane: " ++ pane } }
    [{}, {}, { outcome := .ok { exitCode := some 1 } }, {},
      { outcome := .ok { exitCode := some 1 } }, {}, {},
      { outcome := .ok { stdout := "@1 %1\n" } }, { outcome := .ok { stdout := "%2\n" } },
      { outcome := .ok { stdout := "@1\ttm-demo\n" } }, { outcome := .ok { stdout := "%1\n%2\n" } },
      gone "%1", {}, gone "%2", gone "%2"]

theorem vanishing_add_lays_panes_out :
    let ended := (add workshop "demo" twoPanes).perform Script.host vanishing
    ended.1.panes = ["%1", "%2"] ∧ ∃ events sent, ended.2.journal = events ++ [] ∧
      Add.LaidOut workshop "demo" twoPanes ended.1.panes events ∧
      Add.Sends workshop (workshop.workspace "demo") (twoPanes.orders ended.1.panes) sent events :=
  ⟨by decide +kernel, ready_add_lays_panes_out (by decide +kernel)⟩

/-- **Deliveries that fail are only warned of.** An addition that comes to deliver commands attempts
all of them in order, whatever becomes of each, and runs nothing else any more. It ends ready and
without an error, and warns of each delivery that failed, in order. In tmux the Enter key follows a
text exactly if the text was accepted. -/
theorem failed_deliveries_are_warnings
    (reaches : Add.Reaches setup branch config host s orders progress reached) :
    let ended := (add setup branch config).perform host s
    ∃ later sent, ended.2.journal = later ++ reached.journal ∧
      Add.Sends setup (setup.workspace branch) (config.orders ended.1.panes) sent later ∧
      RunsOnly (·.role? = some .send) later ∧
      ended.1.state = .ready ∧ ended.1.errors = [] ∧ ended.1.removed = [] ∧
      ended.1.warnings = Add.warningsOf sent ∧
      (setup.mux.kind = .tmux → ∀ d ∈ sent,
        (setup.mux.enterKey d.pane ∈ d.ran.map Prod.fst ↔
          ∃ reply, (setup.mux.typing d.pane d.text, reply) ∈ d.ran ∧ reply.Succeeded)) := by
  obtain ⟨earlier, journal, laidOut, same, unsent, unwarned⟩ := reaches.laidOut
  obtain ⟨later, sent, journal', sends, only, told⟩ := reaches.ends
  have enters : setup.mux.kind = .tmux → ∀ d ∈ sent,
      (setup.mux.enterKey d.pane ∈ d.ran.map Prod.fst ↔
        ∃ reply, (setup.mux.typing d.pane d.text, reply) ∈ d.ran ∧ reply.Succeeded) :=
    fun kind d member => (sends.delivers d member).enters_iff kind
  dsimp only
  rw [told]
  refine ⟨later, sent, journal', ?_, only, rfl, rfl, rfl, ?_, enters⟩
  · change Add.Sends setup _ (config.orders (progress.created.filterMap Resource.pane?)) sent later
    rw [← same]
    exact sends
  · rw [unwarned]
    rfl

theorem vanishing_add_is_ready :
    let o := ((add workshop "demo" twoPanes).perform Script.host vanishing).1
    o.state = .ready ∧ o.warnings.length = 3 ∧ ∃ orders progress reached later sent,
      Add.Reaches workshop "demo" twoPanes Script.host vanishing orders progress reached ∧
      Add.Sends workshop (workshop.workspace "demo") (twoPanes.orders o.panes) sent later ∧
      o.warnings = Add.warningsOf sent := by
  have ready : ((add workshop "demo" twoPanes).perform Script.host vanishing).1.state = .ready := by
    decide +kernel
  obtain ⟨orders, progress, reached, reaches⟩ := Add.reaches_of_ready ready
  obtain ⟨later, sent, -, sends, -, -, -, -, warned, -⟩ := failed_deliveries_are_warnings reaches
  exact ⟨ready, by decide +kernel, orders, progress, reached, later, sent, reaches, sends, warned⟩

end Lifecycle

end Worktop

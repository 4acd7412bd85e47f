import Worktop.Proofs.InTurn
import Worktop.Proofs.Queries

/-! # The killing of windows

The windows of a name are killed by the ids that a listing has for it, one after another, up to the
first kill that fails (`Worktop.Multiplexer.Destroys`). Main statement: every match is killed, and
nothing else is (`Worktop.Multiplexer.destroyWindow_kills_matches`).
-/

namespace Worktop

open Act

variable {ω α : Type}

/-! ## What a listing says -/

namespace Mux

/-- An error that a command brought about, and not a name that is taken or missing. -/
def Error.OfCommand : Error → Prop
  | .duplicateName _ | .windowNotFound _ => False
  | _ => True

theorem Tmux.resultOf_eq_error {operation : String} {reply : Reply} {e : Error}
    (told : Tmux.resultOf operation reply = .error e) : e.OfCommand ∧ ¬ reply.Succeeded := by
  cases reply with
  | error spawn =>
    cases told
    exact ⟨trivial, fun ⟨_, same, _⟩ => nomatch same⟩
  | ok output =>
    unfold Tmux.resultOf at told
    dsimp only at told
    split at told
    · cases told
    · rename_i failure
      have failed : ¬ Reply.Succeeded (.ok output) := by
        rintro ⟨_, same, success⟩
        cases same
        exact failure success
      split at told
      · cases told
        exact ⟨trivial, failed⟩
      · cases told
        exact ⟨trivial, failed⟩

theorem Wezterm.resultOf_eq_error {operation : String} {reply : Reply} {e : Error}
    (told : Wezterm.resultOf operation reply = .error e) : e.OfCommand ∧ ¬ reply.Succeeded := by
  cases reply with
  | error spawn =>
    cases told
    exact ⟨trivial, fun ⟨_, same, _⟩ => nomatch same⟩
  | ok output =>
    unfold Wezterm.resultOf at told
    dsimp only at told
    split at told
    · cases told
    · rename_i failure
      cases told
      refine ⟨trivial, ?_⟩
      rintro ⟨_, same, success⟩
      cases same
      exact failure success

theorem Tmux.windowsOf_eq_error {reply : Reply} {e : Error}
    (told : Tmux.windowsOf reply = .error e) : e.OfCommand := by
  cases reply with
  | error spawn =>
    cases told
    trivial
  | ok output =>
    unfold Tmux.windowsOf at told
    dsimp only at told
    split at told
    · cases told
    · split at told
      · cases told
      · cases told
        trivial

theorem Wezterm.panesOf_eq_error {reply : Reply} {e : Error}
    (told : Wezterm.panesOf reply = .error e) : e.OfCommand := by
  unfold Wezterm.panesOf at told
  cases answered : Wezterm.resultOf "list" reply with
  | error e' =>
    rw [answered] at told
    cases told
    exact (Wezterm.resultOf_eq_error answered).1
  | ok output =>
    rw [answered, Except.bind] at told
    split at told
    · cases told
    · cases told
      trivial

end Mux

namespace Multiplexer

/-- The ids and names that a reply lists: of each window in tmux, and of each pane in WezTerm, whose
name is the title of its tab. -/
def listedBy (m : Multiplexer) (reply : Reply) : Except Mux.Error (List (String × String)) :=
  match m.kind with
  | .tmux => Mux.Tmux.windowsOf reply
  | .wezterm => (Mux.Wezterm.panesOf reply).map fun entries =>
      entries.map fun entry => (toString entry.pane, entry.title)

/-- The ids of a name in a listing, in its order. -/
def idsNamed (name : String) (listed : List (String × String)) : List String :=
  (listed.filter (·.2 = name)).map (·.1)

/-- The command that kills a window, or a pane in WezTerm, by its id. -/
def kill (m : Multiplexer) (id : String) : Command :=
  match m.kind with
  | .tmux => Mux.Tmux.command m.socket ["kill-window", "-t", id]
  | .wezterm => Mux.Wezterm.command ["kill-pane", "--pane-id", id]

/-- What a kill comes to. -/
def killed (m : Multiplexer) (reply : Reply) : Except Mux.Error Unit :=
  match m.kind with
  | .tmux => (Mux.Tmux.resultOf "kill-window" reply).map fun _ => ()
  | .wezterm => (Mux.Wezterm.resultOf "kill-pane" reply).map fun _ => ()

variable {m : Multiplexer} {name : String}

theorem listedBy_eq_error {reply : Reply} {e : Mux.Error} (told : m.listedBy reply = .error e) :
    e.OfCommand := by
  unfold listedBy at told
  cases kind : m.kind with
  | tmux =>
    rw [kind] at told
    exact Mux.Tmux.windowsOf_eq_error told
  | wezterm =>
    rw [kind] at told
    cases read : Mux.Wezterm.panesOf reply with
    | error e' =>
      rw [read] at told
      cases told
      exact Mux.Wezterm.panesOf_eq_error read
    | ok entries =>
      rw [read] at told
      cases told

/-- A kill that exits with 0 is all right, and any other is an error of that command. -/
theorem killed_cases (m : Multiplexer) (reply : Reply) :
    (∃ output, reply = .ok output ∧ output.success = true ∧ m.killed reply = .ok ()) ∨
      ∃ e, m.killed reply = .error e ∧ e.OfCommand ∧ ¬ reply.Succeeded := by
  unfold killed
  cases m.kind with
  | tmux =>
    dsimp only
    cases told : Mux.Tmux.resultOf "kill-window" reply with
    | ok output =>
      obtain ⟨rfl, success⟩ := Mux.Tmux.resultOf_eq_ok told
      exact .inl ⟨output, rfl, success, rfl⟩
    | error e => exact .inr ⟨e, rfl, Mux.Tmux.resultOf_eq_error told⟩
  | wezterm =>
    dsimp only
    cases told : Mux.Wezterm.resultOf "kill-pane" reply with
    | ok output =>
      obtain ⟨rfl, success⟩ := Mux.Wezterm.resultOf_eq_ok told
      exact .inl ⟨output, rfl, success, rfl⟩
    | error e => exact .inr ⟨e, rfl, Mux.Wezterm.resultOf_eq_error told⟩

/-! ## One kill after another -/

/-- These are killed in turn, by these events, latest first, and that is what is told of it. -/
def Kills (m : Multiplexer) (ids : List String) (kills : List Event)
    (result : Except Mux.Error Unit) : Prop :=
  ∃ outputs failure?, InTurn (ids.map m.kill) outputs failure? kills ∧
    match failure? with
    | none => result = .ok ()
    | some reply => result = m.killed reply

theorem kills_nil (m : Multiplexer) : m.Kills [] [] (.ok ()) :=
  ⟨[], none, inTurn_nil, rfl⟩

theorem Kills.ok_iff {ids : List String} {events : List Event} {result : Except Mux.Error Unit}
    (kills : m.Kills ids events result) : result = .ok () ↔
      ∀ command reply, .ran command reply ∈ events → reply.Succeeded := by
  obtain ⟨outputs, failure?, inTurn, fate⟩ := kills
  rw [← inTurn.failure?_eq_none_iff]
  cases failure? with
  | none => exact ⟨fun _ => rfl, fun _ => fate⟩
  | some reply =>
    obtain ⟨output, rfl, success, -⟩ | ⟨e, failed, -⟩ := m.killed_cases reply
    · exact absurd ⟨output, rfl, success⟩ (inTurn.failed _ rfl)
    · constructor
      · intro fine
        cases fine.symm.trans (fate.trans failed)
      · exact fun none => nomatch none

theorem Kills.ofCommand {ids : List String} {events : List Event} {e : Mux.Error}
    (kills : m.Kills ids events (.error e)) : e.OfCommand := by
  obtain ⟨outputs, failure?, -, fate⟩ := kills
  cases failure? with
  | none => cases fate
  | some reply =>
    obtain ⟨output, -, -, fine⟩ | ⟨e', failed, ofCommand, -⟩ := m.killed_cases reply
    · cases fate.trans fine
    · cases fate.trans failed
      exact ofCommand

/-- One kill, and the others after it unless it fails. -/
theorem emits_kills_cons {x : Mux.Result ω α} {rest : Mux.Result ω Unit} {id : String}
    {ids : List String} {meaning : Reply → Except Mux.Error α}
    (reads : Reads x.run (m.kill id) meaning)
    (same : ∀ reply, m.killed reply = (meaning reply).map fun _ => ())
    (later : Emits rest.run (m.Kills ids)) :
    Emits (x >>= fun _ => rest).run (m.Kills (id :: ids)) := by
  refine reads.emits.andThen ?_ ?_
  · intro a old given
    obtain ⟨reply, rfl, told⟩ := given
    have fine : m.killed reply = .ok () := by
      rw [same, ← told]
      rfl
    obtain ⟨output, rfl, success, -⟩ | ⟨e, failed, -⟩ := m.killed_cases reply
    · refine later.mono fun new result given => ?_
      obtain ⟨outputs, failure?, inTurn, fate⟩ := given
      exact ⟨output :: outputs, failure?, inTurn.cons (m.kill id) success, fate⟩
    · cases fine.symm.trans failed
  · intro e old given
    obtain ⟨reply, rfl, told⟩ := given
    have refused : m.killed reply = .error e := by
      rw [same, ← told]
      rfl
    obtain ⟨output, -, -, fine⟩ | ⟨e', -, -, failed⟩ := m.killed_cases reply
    · cases fine.symm.trans refused
    · exact ⟨[], some reply, inTurn_failed failed _, refused.symm⟩

theorem killWindows_kills (kind : m.kind = .tmux) (ids : List String) :
    Emits (Mux.Tmux.killWindows m.socket ids : Mux.Result ω Unit).run (m.Kills ids) := by
  induction ids with
  | nil => exact emits_ok m.kills_nil
  | cons id ids ih =>
    have command : Mux.Tmux.command m.socket ["kill-window", "-t", id] = m.kill id := by
      simp [kill, kind]
    unfold Mux.Tmux.killWindows
    rw [command]
    refine emits_kills_cons (Mux.Tmux.run_reads "kill-window" _) (fun reply => ?_) ih
    simp [killed, kind]

theorem killPanes_kills (kind : m.kind = .wezterm) (entries : List Mux.PaneEntry) :
    Emits (Mux.Wezterm.killPanes entries : Mux.Result ω Unit).run
      (m.Kills (entries.map (toString ·.pane))) := by
  induction entries with
  | nil => exact emits_ok m.kills_nil
  | cons entry entries ih =>
    have command : m.kill (toString entry.pane) =
        Mux.Wezterm.command ["kill-pane", "--pane-id", toString entry.pane] := by
      simp [kill, kind]
    unfold Mux.Wezterm.killPanes Mux.Wezterm.killPane
    have runs := (Mux.Wezterm.run_reads (ω := ω) "kill-pane"
      ["kill-pane", "--pane-id", toString entry.pane]).map fun _ => ()
    refine emits_kills_cons (command ▸ runs) (fun reply => ?_) ih
    rw [killed, kind]
    cases Mux.Wezterm.resultOf "kill-pane" reply with
    | ok output => rfl
    | error e => rfl

/-! ## The windows of a name -/

/-- What becomes of an attempt to destroy the windows of a name, of which these ids were listed: the
events after the listing, latest first, and what is told. -/
def Destroys (m : Multiplexer) (name : String) (ids? : Except Mux.Error (List String))
    (kills : List Event) (result : Except Mux.Error Unit) : Prop :=
  match ids? with
  | .error e => kills = [] ∧ result = .error e
  | .ok [] => kills = [] ∧ result = .error (.windowNotFound name)
  | .ok ids => m.Kills ids kills result

/-- Something is looked up for each window of a name, and all that was found is killed. -/
theorem opens_destroys {look : Mux.Result ω (List α)} {meaning : Reply → Except Mux.Error (List α)}
    {ids? : Reply → Except Mux.Error (List String)} {kills : List α → Mux.Result ω Unit}
    (idOf : α → String) (looks : Reads look.run m.windowQuery meaning)
    (same : ∀ reply, (meaning reply).map (·.map idOf) = ids? reply)
    (kill : ∀ found, Emits (kills found).run (m.Kills (found.map idOf))) :
    Opens (do
      let found ← look
      if found.isEmpty then throw (.windowNotFound name)
      kills found : Mux.Result ω Unit).run m.windowQuery fun reply =>
        m.Destroys name (ids? reply) := by
  refine looks.opens ?_ ?_
  · intro reply found told
    rw [← same, told]
    cases found with
    | nil => exact emits_error ⟨rfl, rfl⟩
    | cons first found => exact kill (first :: found)
  · intro reply e told
    rw [← same, told]
    exact ⟨rfl, rfl⟩

theorem destroyWindow_opens (m : Multiplexer) (name : String) :
    Opens (m.destroyWindow name : Mux.Result ω Unit).run m.windowQuery fun reply =>
      m.Destroys name ((m.listedBy reply).map (idsNamed name)) := by
  unfold destroyWindow
  cases kind : m.kind with
  | tmux =>
    have query : m.windowQuery = Mux.Tmux.listCommand m.socket := by simp [windowQuery, kind]
    refine opens_destroys id (query ▸ Mux.Tmux.windowIds_reads _ name) ?_ ?_
    · intro reply
      rw [listedBy, kind]
      cases Mux.Tmux.windowsOf reply with
      | error e => rfl
      | ok windows => simp [Except.map, idsNamed]
    · intro ids
      rw [List.map_id]
      exact killWindows_kills kind ids
  | wezterm =>
    have query : m.windowQuery = Mux.Wezterm.listing := by simp [windowQuery, kind]
    refine opens_destroys (toString ·.pane) (query ▸ Mux.Wezterm.panesIn_reads name) ?_
      (killPanes_kills kind)
    intro reply
    rw [listedBy, kind]
    cases Mux.Wezterm.panesOf reply with
    | error e => rfl
    | ok entries => simp [Except.map, idsNamed, List.filter_map, Function.comp_def]

/-- What is told once the listing is read: whether there was a match, and how its kills went. -/
theorem Destroys.told {ids : List String} {kills : List Event} {result : Except Mux.Error Unit}
    (destroys : m.Destroys name (.ok ids) kills result) :
    (∃ outputs failure?, InTurn (ids.map m.kill) outputs failure? kills ∧
      ∀ reply, failure? = some reply → ∃ e, m.killed reply = .error e ∧ result = .error e) ∧
    (result = .ok () ↔
      ids ≠ [] ∧ ∀ command reply, .ran command reply ∈ kills → reply.Succeeded) ∧
    (result = .error (.windowNotFound name) ↔ ids = []) ∧
    ∀ other, result = .error (.windowNotFound other) → other = name := by
  cases ids with
  | nil =>
    obtain ⟨rfl, rfl⟩ := destroys
    refine ⟨⟨[], none, inTurn_nil, nofun⟩, by simp, by simp, fun other same => ?_⟩
    cases same
    rfl
  | cons id ids =>
    have killed : m.Kills (id :: ids) kills result := destroys
    have found (other : String) : result ≠ .error (.windowNotFound other) := by
      rintro rfl
      exact killed.ofCommand
    refine ⟨?_, ?_, ?_, fun other same => absurd same (found other)⟩
    · obtain ⟨outputs, failure?, inTurn, fate⟩ := killed
      refine ⟨outputs, failure?, inTurn, fun reply failed => ?_⟩
      subst failed
      obtain ⟨output, rfl, success, -⟩ | ⟨e, refused, -⟩ := m.killed_cases reply
      · exact absurd ⟨output, rfl, success⟩ (inTurn.failed _ rfl)
      · exact ⟨e, refused, fate.trans refused⟩
    · rw [killed.ok_iff]
      exact ⟨fun fine => ⟨List.cons_ne_nil _ _, fine⟩, And.right⟩
    · exact ⟨fun same => absurd same (found name), fun none => absurd none (List.cons_ne_nil _ _)⟩

/-- **Every match is killed, and only matches.** After the listing, the windows (in WezTerm the
panes) of the name are killed by their ids, in the order of the listing, up to the first kill that
fails. That is all right exactly if there was a match and every kill exited with 0, and the window
is missing exactly if the listing could be read and has no match; else it is the error of the
listing, after which nothing is killed, or of the kill that failed. -/
theorem destroyWindow_kills_matches (m : Multiplexer) (name : String) :
    Emits (m.destroyWindow name : Mux.Result ω Unit).run fun events result =>
      ∃ listing kills, events = kills ++ [.ran m.windowQuery listing] ∧
        (∀ e, m.listedBy listing = .error e → kills = [] ∧ result = .error e) ∧
        (∀ listed, m.listedBy listing = .ok listed → ∃ outputs failure?,
          InTurn ((idsNamed name listed).map m.kill) outputs failure? kills ∧
          ∀ reply, failure? = some reply → ∃ e, m.killed reply = .error e ∧ result = .error e) ∧
        (result = .ok () ↔ ∃ listed, m.listedBy listing = .ok listed ∧
          idsNamed name listed ≠ [] ∧
          ∀ command reply, .ran command reply ∈ kills → reply.Succeeded) ∧
        (result = .error (.windowNotFound name) ↔ ∃ listed, m.listedBy listing = .ok listed ∧
          idsNamed name listed = []) ∧
        ∀ other, result = .error (.windowNotFound other) → other = name := by
  refine (m.destroyWindow_opens name).emits.mono fun events result given => ?_
  obtain ⟨listing, kills, rfl, destroys⟩ := given
  refine ⟨listing, kills, rfl, ?_⟩
  cases read : m.listedBy listing with
  | error e =>
    rw [read] at destroys
    obtain ⟨rfl, rfl⟩ := destroys
    have ofCommand : e.OfCommand := listedBy_eq_error read
    refine ⟨fun e' same => ?_, nofun, ?_, ?_, fun other same => ?_⟩
    · cases same
      exact ⟨rfl, rfl⟩
    · simp
    · simp only [Except.error.injEq, reduceCtorEq, false_and, exists_false, iff_false]
      rintro rfl
      exact ofCommand
    · cases same
      exact ofCommand.elim
  | ok listed =>
    rw [read] at destroys
    simp only [Except.ok.injEq, exists_eq_left', forall_eq']
    exact ⟨nofun, destroys.told⟩

end Multiplexer

end Worktop

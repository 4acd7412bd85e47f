import Mathlib.Data.List.Basic
import Mathlib.Data.List.Induction
import Worktop.Proofs.Mux.Destruction
import Worktop.Proofs.Roles

/-! # What it is for a window to be there

Windows are listed, looked for, made and destroyed by different readings of one listing: of the
names in it, each once, or of the ids that go with a name. Main statement: from the same reply they
all come to the same answer of whether there is a window of a name
(`Worktop.Multiplexer.operations_agree`).
-/

namespace Worktop

open Act

variable {ω ω' α : Type}

/-- Where this is an error, a command brought it about. -/
def Mux.FailsByCommand : Except Mux.Error α → Prop
  | .ok _ => True
  | .error e => e.OfCommand

/-! ## Titles of tabs -/

namespace Mux.Wezterm

theorem titles_concat (entries : List PaneEntry) (entry : PaneEntry) :
    titles (entries ++ [entry]) =
      if entry.title = "" ∨ entry.title ∈ titles entries then titles entries
      else titles entries ++ [entry.title] := by
  by_cases blank : entry.title = ""
  · simp [titles, blank]
  · by_cases member : entry.title ∈ titles entries
    · rw [if_pos (.inr member)]
      simp [titles, blank] at member ⊢
      simp [member]
    · rw [if_neg (not_or.mpr ⟨blank, member⟩)]
      simp [titles, blank] at member ⊢
      simp [member]

theorem mem_titles {name : String} {entries : List PaneEntry} :
    name ∈ titles entries ↔ name ≠ "" ∧ name ∈ entries.map (·.title) := by
  induction entries using List.reverseRecOn with
  | nil => simp [titles]
  | append_singleton entries entry ih =>
    rw [titles_concat, List.map_append, List.mem_append]
    split
    · rename_i known
      rw [ih]
      constructor
      · exact fun ⟨named, listed⟩ => ⟨named, .inl listed⟩
      · rintro ⟨named, listed | last⟩
        · exact ⟨named, listed⟩
        · cases List.mem_singleton.mp last
          exact ih.mp (known.resolve_left named)
    · rename_i new
      obtain ⟨named, -⟩ := not_or.mp new
      rw [List.mem_append, ih]
      constructor
      · rintro (⟨named, listed⟩ | last)
        · exact ⟨named, .inl listed⟩
        · cases List.mem_singleton.mp last
          exact ⟨named, .inr (List.mem_singleton.mpr rfl)⟩
      · rintro ⟨named, listed | last⟩
        · exact .inl ⟨named, listed⟩
        · exact .inr last

/-- Titles come in the order in which they first appear. -/
theorem titles_in_order (entries : List PaneEntry) : (titles entries).Pairwise fun first second =>
    (entries.map (·.title)).idxOf first < (entries.map (·.title)).idxOf second := by
  induction entries using List.reverseRecOn with
  | nil => exact .nil
  | append_singleton entries entry ih =>
    have before {first : String} (listed : first ∈ titles entries) :
        ((entries ++ [entry]).map (·.title)).idxOf first =
          (entries.map (·.title)).idxOf first := by
      rw [List.map_append, List.idxOf_append_of_mem (mem_titles.mp listed).2]
    have kept : (titles entries).Pairwise fun first second =>
        ((entries ++ [entry]).map (·.title)).idxOf first <
          ((entries ++ [entry]).map (·.title)).idxOf second := by
      refine ih.imp_of_mem fun first second earlier => ?_
      rw [before first, before second]
      exact earlier
    rw [titles_concat]
    split
    · exact kept
    · rename_i new
      obtain ⟨named, absent⟩ := not_or.mp new
      have unseen : entry.title ∉ entries.map (·.title) := fun seen =>
        absent (mem_titles.mpr ⟨named, seen⟩)
      refine List.pairwise_append.mpr ⟨kept, List.pairwise_singleton _ _, ?_⟩
      intro first listed last same
      cases List.mem_singleton.mp same
      rw [before listed, List.map_append, List.idxOf_append_of_notMem unseen]
      have within : (entries.map (·.title)).idxOf first < (entries.map (·.title)).length :=
        List.idxOf_lt_length_of_mem (mem_titles.mp listed).2
      omega

theorem paneOfOutput_ofCommand (operation printed : String) :
    Emits (paneOfOutput operation printed : Result ω String).run fun _ result =>
      FailsByCommand result := by
  rw [paneOfOutput_run]
  refine emits_pure ?_
  unfold paneNamed
  split
  · trivial
  · trivial

theorem Titled.ofCommand {name pane : String} {events : List Event} {e : Error}
    (untitled : Titled name pane events (.error e)) : e.OfCommand := by
  cases untitled with
  | untitled refused => exact (resultOf_eq_error refused).1
  | unlisted titled unread => exact panesOf_eq_error unread

end Mux.Wezterm

namespace Multiplexer

variable {m : Multiplexer} {name : String}

/-! ## Names and ids -/

theorem idsNamed_ne_nil_iff {listed : List (String × String)} :
    idsNamed name listed ≠ [] ↔ name ∈ listed.map (·.2) := by
  simp [idsNamed]

/-- A listing has the same names however it is read, but for the empty one. -/
theorem listing_cases (m : Multiplexer) (reply : Reply) :
    (∃ e, m.listedBy reply = .error e ∧ m.namesListed reply = .error e) ∨
      ∃ listed names, m.listedBy reply = .ok listed ∧ m.namesListed reply = .ok names ∧
        ∀ name, name ≠ "" → (name ∈ names ↔ idsNamed name listed ≠ []) := by
  unfold listedBy namesListed
  cases m.kind with
  | tmux =>
    dsimp only
    cases Mux.Tmux.windowsOf reply with
    | error e => exact .inl ⟨e, rfl, rfl⟩
    | ok windows =>
      exact .inr ⟨windows, windows.map (·.2), rfl, rfl, fun _ _ => idsNamed_ne_nil_iff.symm⟩
  | wezterm =>
    dsimp only
    cases Mux.Wezterm.panesOf reply with
    | error e => exact .inl ⟨e, rfl, rfl⟩
    | ok entries =>
      refine .inr ⟨_, _, rfl, rfl, fun name named => ?_⟩
      rw [idsNamed_ne_nil_iff, Mux.Wezterm.mem_titles, List.map_map]
      exact ⟨And.right, fun listed => ⟨named, listed⟩⟩

/-! ## The making of a window -/

/-- What becomes of an attempt to make a window of a name of which these ids were listed: the events
after the listing, latest first, and what is told. -/
def Makes (m : Multiplexer) (name directory : String) (env : Environment)
    (ids? : Except Mux.Error (List String)) (later : List Event)
    (result : Except Mux.Error Mux.Window) : Prop :=
  match ids? with
  | .error e => later = [] ∧ result = .error e
  | .ok [] => (∃ reply newer, later = newer ++ [.ran (m.windowCommand name directory env) reply]) ∧
      ∀ other, result ≠ .error (.duplicateName other)
  | .ok _ => later = [] ∧ result = .error (.duplicateName name)

/-- Something is looked up that tells whether the name is taken, and where it is not, a window is
made. -/
theorem opens_makes {look : Mux.Result ω α} {meaning : Reply → Except Mux.Error α}
    {ids? : Reply → Except Mux.Error (List String)} {taken : α → Bool}
    {make : Mux.Result ω Mux.Window} {directory : String} {env : Environment}
    (looks : Reads look.run m.windowQuery meaning)
    (same : ∀ reply, (meaning reply).map taken = (ids? reply).map (!·.isEmpty))
    (makes : Emits make.run (m.Makes name directory env (.ok []))) :
    Opens (do
      let found ← look
      if taken found then throw (.duplicateName name)
      make : Mux.Result ω Mux.Window).run m.windowQuery fun reply =>
        m.Makes name directory env (ids? reply) := by
  refine looks.opens ?_ ?_
  · intro reply found told
    have read := same reply
    rw [told] at read
    cases listed : ids? reply with
    | error e =>
      rw [listed] at read
      cases read
    | ok ids =>
      rw [listed] at read
      have free : taken found = !ids.isEmpty := Except.ok.inj read
      simp only [free]
      cases ids with
      | nil => exact makes
      | cons id ids => exact emits_error ⟨rfl, rfl⟩
  · intro reply e told
    have read := same reply
    rw [told] at read
    cases listed : ids? reply with
    | error e' =>
      rw [listed] at read
      cases read
      exact ⟨rfl, rfl⟩
    | ok ids =>
      rw [listed] at read
      cases read

/-- The command that makes a window is run, and what comes of it is not that the name is taken. -/
theorem emits_makes {x : Mux.Result ω α} {f : α → Mux.Result ω Mux.Window} {directory : String}
    {env : Environment} {opening : Command} {meaning : Reply → Except Mux.Error α}
    (runs : Reads x.run opening meaning) (same : opening = m.windowCommand name directory env)
    (refused : ∀ reply e, meaning reply = .error e → e.OfCommand)
    (after : ∀ a, Emits (f a).run fun _ result => Mux.FailsByCommand result) :
    Emits (x >>= f).run (m.Makes name directory env (.ok [])) := by
  subst same
  have opens : Opens (x >>= f).run (m.windowCommand name directory env)
      fun _ _ result => Mux.FailsByCommand result :=
    runs.opens (fun reply a _ => after a) refused
  refine opens.emits.mono fun events result given => ?_
  obtain ⟨reply, newer, rfl, told⟩ := given
  refine ⟨⟨reply, newer, rfl⟩, ?_⟩
  rintro other rfl
  exact told

theorem createWindow_opens (m : Multiplexer) (name directory : String) (env : Environment) :
    Opens (m.createWindow name directory env : Mux.Result ω Mux.Window).run m.windowQuery
      fun reply => m.Makes name directory env ((m.listedBy reply).map (idsNamed name)) := by
  unfold createWindow
  cases kind : m.kind with
  | tmux =>
    have query : m.windowQuery = Mux.Tmux.listCommand m.socket := by simp [windowQuery, kind]
    refine opens_makes (query ▸ (Mux.Tmux.windows_reads _).map _) ?_ ?_
    · intro reply
      rw [listedBy, kind]
      cases Mux.Tmux.windowsOf reply with
      | error e => rfl
      | ok windows => rfl
    · refine emits_makes (Mux.Tmux.run_reads _ _) (by simp [windowCommand, kind])
        (fun reply e told => (Mux.Tmux.resultOf_eq_error told).1) ?_
      intro output
      dsimp only
      split
      · exact emits_ok trivial
      · exact emits_error trivial
  | wezterm =>
    have query : m.windowQuery = Mux.Wezterm.listing := by simp [windowQuery, kind]
    refine opens_makes (query ▸ Mux.Wezterm.panes_reads) ?_ ?_
    · intro reply
      rw [listedBy, kind]
      cases Mux.Wezterm.panesOf reply with
      | error e => rfl
      | ok entries =>
        refine congrArg Except.ok (Bool.eq_iff_iff.mpr ?_)
        simp [idsNamed]
    · refine emits_makes (Mux.Wezterm.run_reads _ _) (by simp [windowCommand, kind])
        (fun reply e told => (Mux.Wezterm.resultOf_eq_error told).1) ?_
      intro output
      refine Emits.andThen (Mux.Wezterm.paneOfOutput_ofCommand _ _) ?_ fun e old told => told
      intro pane old _
      refine (Mux.Wezterm.titleTab_or_kill name pane).andThen ?_ ?_
      · intro id new _
        exact emits_ok trivial
      · intro e new given
        obtain ⟨_, same, -⟩ | ⟨_, last, earlier, same, -, untitled⟩ := given
        · cases same
        · cases same
          exact untitled.ofCommand

/-! ## One reply, four operations -/

/-- What the operations on a name come to from one reply to the query for windows: looking for a
window, listing them, making one and destroying those there are. With the latter two go the commands
that they run after the query. -/
inductive Verdict (m : Multiplexer) (name directory : String) (env : Environment) (reply : Reply) :
    Except Mux.Error Bool → Except Mux.Error (List String) →
      Except Mux.Error Mux.Window → List Command → Except Mux.Error Unit → List Command → Prop
  | unread (e : Mux.Error) (unread : m.listedBy reply = .error e) :
      Verdict m name directory env reply (.error e) (.error e) (.error e) [] (.error e) []
  | absent {windows : List (String × String)} {names : List String}
      {made : Except Mux.Error Mux.Window} (read : m.listedBy reply = .ok windows)
      (missing : name ∉ names) (free : ∀ other, made ≠ .error (.duplicateName other))
      (later : List Command) :
      Verdict m name directory env reply (.ok false) (.ok names) made
        (m.windowCommand name directory env :: later) (.error (.windowNotFound name)) []
  | present {windows : List (String × String)} {names : List String} {kills : List Command}
      {gone : Except Mux.Error Unit} (read : m.listedBy reply = .ok windows)
      (listed : name ∈ names) {id : String} (kill : m.kill id ∈ kills)
      (found : ∀ other, gone ≠ .error (.windowNotFound other)) :
      Verdict m name directory env reply (.ok true) (.ok names)
        (.error (.duplicateName name)) [] gone kills

variable {directory : String} {env : Environment} {host : Host ω} {s : Session ω} {host' : Host ω'}
  {s' : Session ω'} {reply : Reply}

theorem verdict (m : Multiplexer) (named : name ≠ "") (directory : String) (env : Environment)
    (asked : ((exec m.windowQuery).perform host s).1 = reply)
    (asked' : ((exec m.windowQuery).perform host' s').1 = reply) :
    ∃ later kills,
      ((m.createWindow name directory env : Mux.Result ω' _).run.perform host' s').2.commands =
        s'.commands ++ m.windowQuery :: later ∧
      ((m.destroyWindow name : Mux.Result ω' _).run.perform host' s').2.commands =
        s'.commands ++ m.windowQuery :: kills ∧
      m.Verdict name directory env reply
        ((m.windowExists name : Mux.Result ω _).run.perform host s).1
        ((m.listWindows : Mux.Result ω' _).run.perform host' s').1
        ((m.createWindow name directory env : Mux.Result ω' _).run.perform host' s').1 later
        ((m.destroyWindow name : Mux.Result ω' _).run.perform host' s').1 kills := by
  have there : ((m.windowExists name : Mux.Result ω _).run.perform host s).1 =
      (m.namesListed reply).map (·.contains name) := by
    rw [← asked]
    exact congrArg Prod.fst (windowExists_reads name host s)
  have lists : ((m.listWindows : Mux.Result ω' _).run.perform host' s').1 =
      m.namesListed reply := by
    rw [← asked']
    exact congrArg Prod.fst (listWindows_reads host' s')
  obtain ⟨later, made, makes⟩ := (m.createWindow_opens name directory env).commands host' s'
  obtain ⟨kills, gone, destroys⟩ := (m.destroyWindow_opens name).commands host' s'
  refine ⟨_, _, made, gone, ?_⟩
  rw [asked'] at makes destroys
  rw [there, lists]
  obtain ⟨e, unread, unnamed⟩ | ⟨windows, names, read, namesRead, agree⟩ := m.listing_cases reply
  · rw [unread] at makes destroys
    obtain ⟨rfl, makes⟩ := makes
    obtain ⟨rfl, destroys⟩ := destroys
    rw [unnamed, makes, destroys]
    exact .unread e unread
  · rw [read] at makes destroys
    rw [namesRead]
    cases ids : idsNamed name windows with
    | nil =>
      have missing : name ∉ names := fun listed => (agree name named).mp listed ids
      rw [Except.map, ids] at makes destroys
      obtain ⟨⟨answer, newer, rfl⟩, free⟩ := makes
      obtain ⟨rfl, destroys⟩ := destroys
      rw [destroys]
      have absent : m.Verdict name directory env reply (.ok false) _ _ _ _ _ :=
        .absent read missing free (newer.filterMap Event.command?).reverse
      simpa [Except.map, missing, Event.command?] using absent
    | cons id rest =>
      have listed : name ∈ names := (agree name named).mpr (ids ▸ List.cons_ne_nil id rest)
      rw [Except.map, ids] at makes destroys
      obtain ⟨rfl, makes⟩ := makes
      have killed : m.Kills (id :: rest) kills _ := destroys
      rw [makes]
      have found : ∀ other, ((m.destroyWindow name : Mux.Result ω' _).run.perform host' s').1 ≠
          .error (.windowNotFound other) := by
        intro other same
        rw [same] at killed
        exact killed.ofCommand
      obtain ⟨outputs, failure?, inTurn, -⟩ := killed
      obtain ⟨answer, first⟩ := inTurn.ran_first
      have kill : m.kill id ∈ (kills.filterMap Event.command?).reverse := by
        rw [List.mem_reverse]
        exact List.mem_filterMap.mpr ⟨_, first, rfl⟩
      have present : m.Verdict name directory env reply (.ok true) _ _ _ _ _ :=
        .present read listed kill found
      simpa [Except.map, listed] using present

theorem Verdict.agrees {there : Except Mux.Error Bool} {listed : Except Mux.Error (List String)}
    {made : Except Mux.Error Mux.Window} {gone : Except Mux.Error Unit} {later kills : List Command}
    (verdict : m.Verdict name directory env reply there listed made later gone kills) :
    (there = .ok true ↔ ∃ names, listed = .ok names ∧ name ∈ names) ∧
    (there = .ok true ↔ made = .error (.duplicateName name) ∧ later = []) ∧
    (there = .ok true ↔ ∃ id, m.kill id ∈ kills) ∧
    (there = .ok true ↔ (∀ other, gone ≠ .error (.windowNotFound other)) ∧
      ∀ e, m.listedBy reply = .error e → gone ≠ .error e) ∧
    (∀ e, m.listedBy reply = .error e →
      there = .error e ∧ listed = .error e ∧ made = .error e ∧ gone = .error e ∧
        later = [] ∧ kills = []) ∧
    (there = .ok false → gone = .error (.windowNotFound name) ∧ kills = [] ∧
      ∃ rest, later = m.windowCommand name directory env :: rest) := by
  cases verdict with
  | unread e unread =>
    have other : e ≠ .duplicateName name := by
      rintro rfl
      exact listedBy_eq_error unread
    simp [unread, other]
  | absent read missing free later => simp [read, missing]
  | present read listed kill found =>
    simp [read, listed, found]
    exact ⟨_, kill⟩

/-- Without a server, tmux has no windows. -/
theorem listing_of_noServer (kind : m.kind = .tmux) {output : Output}
    (failure : output.success = false) (gone : Mux.Tmux.saysNoServer output.complaint = true) :
    m.namesListed (.ok output) = .ok [] := by
  simp [namesListed, kind, Mux.Tmux.windowsOf, failure, gone, Except.map]

/-- The names of windows in WezTerm are the titles of tabs. -/
theorem listing_of_wezterm (kind : m.kind = .wezterm) {windows : List (String × String)}
    {names : List String} (read : m.listedBy reply = .ok windows)
    (named : m.namesListed reply = .ok names) :
    ∃ entries, names = Mux.Wezterm.titles entries ∧
      windows.map (·.2) = entries.map (·.title) := by
  rw [listedBy, kind] at read
  rw [namesListed, kind] at named
  obtain ⟨entries, listed, rfl⟩ := exists_of_map_eq_ok read
  obtain ⟨_, listed', rfl⟩ := exists_of_map_eq_ok named
  cases listed.symm.trans listed'
  exact ⟨entries, rfl, by simp⟩

/-- **All operations agree on whether a window is there.** From the same reply to the query for
windows, a window is found exactly if it is listed, exactly if none of that name can be made, and
then none is, and exactly if there is something to destroy. Where the reply cannot be read, all four
end with the error and run nothing more; where tmux has no server, there are just no windows. The
names in WezTerm are the titles of tabs, each once, in the order in which they first appear. -/
theorem operations_agree (m : Multiplexer) {name : String} (named : name ≠ "") (directory : String)
    (env : Environment) (host : Host ω) (s : Session ω) (host' : Host ω') (s' : Session ω')
    {reply : Reply} (asked : ((exec m.windowQuery).perform host s).1 = reply)
    (asked' : ((exec m.windowQuery).perform host' s').1 = reply) :
    let there := (m.windowExists name : Mux.Result ω _).run.perform host s
    let listed := (m.listWindows : Mux.Result ω' _).run.perform host' s'
    let made := (m.createWindow name directory env : Mux.Result ω' _).run.perform host' s'
    let gone := (m.destroyWindow name : Mux.Result ω' _).run.perform host' s'
    there.2.commands = s.commands ++ [m.windowQuery] ∧
    listed.2.commands = s'.commands ++ [m.windowQuery] ∧
    (∃ later kills, made.2.commands = s'.commands ++ m.windowQuery :: later ∧
      gone.2.commands = s'.commands ++ m.windowQuery :: kills ∧
      (there.1 = .ok true ↔ ∃ names, listed.1 = .ok names ∧ name ∈ names) ∧
      (there.1 = .ok true ↔ made.1 = .error (.duplicateName name) ∧ later = []) ∧
      (there.1 = .ok true ↔ ∃ id, m.kill id ∈ kills) ∧
      (there.1 = .ok true ↔ (∀ other, gone.1 ≠ .error (.windowNotFound other)) ∧
        ∀ e, m.listedBy reply = .error e → gone.1 ≠ .error e) ∧
      (∀ e, m.listedBy reply = .error e →
        there.1 = .error e ∧ listed.1 = .error e ∧ made.1 = .error e ∧ gone.1 = .error e ∧
          later = [] ∧ kills = []) ∧
      (there.1 = .ok false → gone.1 = .error (.windowNotFound name) ∧ kills = [] ∧
        ∃ rest, later = m.windowCommand name directory env :: rest)) ∧
    (m.kind = .tmux → ∀ output, reply = .ok output → output.success = false →
      Mux.Tmux.saysNoServer output.complaint = true →
        listed.1 = .ok [] ∧ there.1 = .ok false) ∧
    (m.kind = .wezterm → ∀ windows names, m.listedBy reply = .ok windows → listed.1 = .ok names →
      names.Nodup ∧ "" ∉ names ∧ names.Pairwise fun first second =>
        (windows.map (·.2)).idxOf first < (windows.map (·.2)).idxOf second) := by
  intro there listed made gone
  obtain ⟨later, kills, makes, destroys, verdict⟩ :=
    m.verdict named directory env asked asked'
  have looks : there = _ := windowExists_reads name host s
  have lists : listed = _ := listWindows_reads host' s'
  have names : listed.1 = m.namesListed reply := by rw [lists, asked']
  refine ⟨?_, ?_, ⟨later, kills, makes, destroys, verdict.agrees⟩, ?_, ?_⟩
  · rw [looks]
    exact Session.commands_asked _
  · rw [lists]
    exact Session.commands_asked _
  · rintro kind output rfl failure serverless
    have none := listing_of_noServer kind failure serverless
    refine ⟨names.trans none, ?_⟩
    simp [looks, asked, none, Except.map]
  · intro kind windows titles read told
    obtain ⟨entries, rfl, same⟩ := listing_of_wezterm kind read (names.symm.trans told)
    have order := Mux.Wezterm.titles_in_order entries
    rw [same]
    refine ⟨order.imp fun {first second} before => ?_, ?_, order⟩
    · rintro rfl
      exact Nat.lt_irrefl _ before
    · exact fun blank => (Mux.Wezterm.mem_titles.mp blank).1 rfl

/-- WezTerm lists a tab of two panes, and one without a title. -/
def splitTab : Script :=
  [{ outcome := .ok { stdout := "[[1, 4, \"tm-demo\"], [1, 5, \"tm-demo\"], [2, 6]]" } }]

theorem splitTab_is_there :
    let m : Multiplexer := { kind := .wezterm }
    ((m.windowExists "tm-demo" : Mux.Result Script _).run.perform Script.host
        { outside := splitTab }).1 = .ok true ∧
      ((m.createWindow "tm-demo" "trees/demo" [] : Mux.Result Script _).run.perform Script.host
        { outside := splitTab, clock := 1 }).1 = .error (.duplicateName "tm-demo") := by
  intro m
  have named : "tm-demo" ≠ "" := by decide
  have there : ((m.windowExists "tm-demo" : Mux.Result Script _).run.perform Script.host
      { outside := splitTab }).1 = .ok true := by decide +kernel
  obtain ⟨-, -, ⟨later, kills, -, -, -, agree, -⟩, -⟩ := m.operations_agree named "trees/demo" []
    Script.host { outside := splitTab } Script.host { outside := splitTab, clock := 1 } rfl rfl
  exact ⟨there, (agree.mp there).1⟩

end Multiplexer

end Worktop

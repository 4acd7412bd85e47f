import Mathlib.Data.List.Forall2
import Worktop.Proofs.Mux.Destruction
import Worktop.Proofs.Text.Numeral
import Worktop.Rehearsal

/-! # The names of panes in WezTerm

WezTerm tells its panes by numbers of 64 bits. A command that makes a pane prints the number, and a
listing has it among its values; either way the pane is called by the shortest numeral of the number
(`Worktop.Mux.Wezterm.NameOf`), so that names can be compared as texts. Main statement: what a pane
is called when it is made is what it is called when it is listed, and it is called so wherever the
number is the same (`Worktop.Mux.Wezterm.panes_named_by_number`).
-/

namespace Worktop.Mux

open Text.Numeral (Shortest Signed)

/-! ## Numbers in listings -/

namespace PaneEntry

theorem word?_lt {v : Json.Value} {n : Nat} (read : word? v = some n) : n < 2 ^ 64 := by
  rw [← Text.Numeral.wordLimit_eq]
  cases v with
  | number text => exact of_decide_eq_true (Option.filter_eq_some_iff.mp read).2
  | _ => cases read

theorem pane_lt_of_ofValues? {tabs panes titles : List Json.Value} {entry : PaneEntry}
    (read : ofValues? tabs panes titles = some entry) : entry.pane < 2 ^ 64 := by
  unfold ofValues? at read
  split at read
  · rename_i tab pane _
    obtain ⟨tab, -, read⟩ := Option.bind_eq_some_iff.mp read
    obtain ⟨number, told, read⟩ := Option.bind_eq_some_iff.mp read
    split at read
    · cases read
      exact word?_lt told
    · obtain ⟨title, -, rfl⟩ := Option.map_eq_some_iff.mp read
      exact word?_lt told
    · cases read
  · cases read

theorem pane_lt_of_ofValue? {v : Json.Value} {entry : PaneEntry}
    (read : ofValue? v = some entry) : entry.pane < 2 ^ 64 := by
  unfold ofValue? at read
  split at read
  · split at read
    · exact pane_lt_of_ofValues? read
    · cases read
  · exact pane_lt_of_ofValues? read
  · exact pane_lt_of_ofValues? read
  · cases read

theorem pane_lt_of_items {items : List Json.Value} {entries : List PaneEntry}
    (read : items.mapM ofValue? = some entries) : ∀ entry ∈ entries, entry.pane < 2 ^ 64 := by
  induction items generalizing entries with
  | nil =>
    cases read
    simp
  | cons item items ih =>
    rw [List.mapM_cons] at read
    obtain ⟨first, told, read⟩ := Option.bind_eq_some_iff.mp read
    obtain ⟨rest, others, read⟩ := Option.bind_eq_some_iff.mp read
    cases read
    exact List.forall_mem_cons.mpr ⟨pane_lt_of_ofValue? told, ih others⟩

/-- Every pane in a listing has a number of 64 bits. -/
theorem pane_lt_of_listOfText? {s : String} {entries : List PaneEntry}
    (read : listOfText? s = some entries) : ∀ entry ∈ entries, entry.pane < 2 ^ 64 := by
  unfold listOfText? at read
  split at read
  · exact pane_lt_of_items read
  · cases read

end PaneEntry

namespace Wezterm

open Act

variable {ω : Type}

/-! ## Names and numbers -/

/-- A command that makes a pane has printed its number: but for the blanks around it, the output is
a numeral, perhaps with a plus sign. -/
structure PrintsPane (printed : String) (n : Nat) : Prop where
  number : Signed (Text.trim printed).toList n
  small : n < 2 ^ 64

/-- The pane of a number is called by the shortest numeral of the number. -/
structure NameOf (name : String) (n : Nat) : Prop where
  shortest : Shortest name.toList n
  small : n < 2 ^ 64

theorem nameOf_iff {name : String} {n : Nat} : NameOf name n ↔ name = toString n ∧ n < 2 ^ 64 :=
  ⟨fun named => ⟨Text.Numeral.shortest_toList_iff.mp named.shortest, named.small⟩,
    fun named => ⟨Text.Numeral.shortest_toList_iff.mpr named.1, named.2⟩⟩

/-- Names are the same exactly if they are of the same pane. -/
theorem NameOf.eq_iff {name other : String} {m n : Nat} (first : NameOf name m)
    (second : NameOf other n) : name = other ↔ m = n := by
  rw [(nameOf_iff.mp second).1]
  exact first.shortest.eq_toString_iff

/-- What is read is a number as it was printed, and what it is read as is the name. -/
theorem paneName?_eq_some_iff {printed name : String} : paneName? printed = some name ↔
    ∃ n, (Signed printed.toList n ∧ n < 2 ^ 64) ∧ NameOf name n := by
  rw [paneName?, Option.map_eq_some_iff]
  refine exists_congr fun n => ?_
  rw [Text.Numeral.word64?_eq_some_iff]
  refine and_congr_right fun read => ?_
  rw [nameOf_iff]
  exact ⟨fun same => ⟨same.symm, read.2⟩, fun named => named.1.symm⟩

/-- A name is read as itself. -/
theorem NameOf.read {name : String} {n : Nat} (named : NameOf name n) :
    paneName? name = some name :=
  paneName?_eq_some_iff.mpr ⟨n, ⟨.plain named.shortest.spells, named.small⟩, named⟩

theorem paneNamed_eq_ok_iff {operation printed name : String} :
    paneNamed operation printed = .ok name ↔ ∃ n, PrintsPane printed n ∧ NameOf name n := by
  have read : paneNamed operation printed = .ok name ↔
      paneName? (Text.trim printed) = some name := by
    rw [← toOption_paneNamed operation printed]
    cases paneNamed operation printed with
    | ok pane => simp [Except.toOption]
    | error e => simp [Except.toOption]
  rw [read, paneName?_eq_some_iff]
  exact exists_congr fun n => and_congr_left fun _ =>
    ⟨fun printed => ⟨printed.1, printed.2⟩, fun printed => ⟨printed.number, printed.small⟩⟩

theorem paneNamed_of_prints (operation : String) {printed : String} {n : Nat}
    (prints : PrintsPane printed n) :
    ∃ name, paneNamed operation printed = .ok name ∧ NameOf name n := by
  have named : NameOf (toString n) n := nameOf_iff.mpr ⟨rfl, prints.small⟩
  exact ⟨toString n, paneNamed_eq_ok_iff.mpr ⟨n, prints, named⟩, named⟩

theorem isOk_paneNamed_iff {operation printed : String} :
    (paneNamed operation printed).isOk = true ↔ ∃ n, PrintsPane printed n := by
  constructor
  · intro fine
    cases read : paneNamed operation printed with
    | ok name =>
      obtain ⟨n, prints, -⟩ := paneNamed_eq_ok_iff.mp read
      exact ⟨n, prints⟩
    | error e =>
      rw [read] at fine
      cases fine
  · rintro ⟨n, prints⟩
    obtain ⟨name, read, -⟩ := paneNamed_of_prints operation prints
    rw [read]
    rfl

theorem paneNamed_eq_error {operation printed : String} {e : Error}
    (refused : paneNamed operation printed = .error e) :
    e = .unexpectedOutput operation (Text.trim printed) := by
  unfold paneNamed at refused
  split at refused
  · cases refused
  · cases refused
    rfl

/-! ## Panes in listings -/

theorem nameOf_listed {reply : Reply} {entries : List PaneEntry}
    (read : panesOf reply = .ok entries) {entry : PaneEntry} (member : entry ∈ entries) :
    NameOf (toString entry.pane) entry.pane := by
  obtain ⟨output, -, -, told⟩ := panesOf_eq_ok read
  exact nameOf_iff.mpr ⟨rfl, PaneEntry.pane_lt_of_listOfText? told entry member⟩

/-- The tab of the first entry that is listed for a pane, and no text where there is none. -/
inductive FirstTab (n : Nat) : List PaneEntry → String → Prop
  | listed {before after : List PaneEntry} {entry : PaneEntry}
      (earlier : ∀ other ∈ before, other.pane ≠ n) (numbered : entry.pane = n) :
      FirstTab n (before ++ entry :: after) (toString entry.tab)
  | unlisted {entries : List PaneEntry} (absent : ∀ entry ∈ entries, entry.pane ≠ n) :
      FirstTab n entries ""

/-- To look for a name among listed panes is to look for the number. -/
theorem tabOf_eq_iff {name id : String} {n : Nat} (named : NameOf name n)
    {entries : List PaneEntry} : tabOf name entries = id ↔ FirstTab n entries id := by
  -- texts are compared, but numbers are meant
  have sought : (fun entry : PaneEntry => decide (toString entry.pane = name)) =
      fun entry => decide (entry.pane = n) := by
    funext entry
    rw [decide_eq_decide, eq_comm, named.shortest.eq_toString_iff, eq_comm]
  unfold tabOf
  rw [sought]
  constructor
  · rintro rfl
    split
    · rename_i entry found
      obtain ⟨numbered, before, after, rfl, earlier⟩ := List.find?_eq_some_iff_append.mp found
      refine .listed (fun other member => ?_) (of_decide_eq_true numbered)
      simpa using earlier other member
    · rename_i none
      exact .unlisted fun entry member => by simpa using List.find?_eq_none.mp none entry member
  · intro first
    cases first with
    | @listed before after entry earlier numbered =>
      have found : (before ++ entry :: after).find? (fun other => decide (other.pane = n)) =
          some entry :=
        List.find?_eq_some_iff_append.mpr ⟨decide_eq_true numbered, before, after, rfl,
          fun other member => by simpa using earlier other member⟩
      rw [found]
    | unlisted absent =>
      have none : entries.find? (fun other => decide (other.pane = n)) = none :=
        List.find?_eq_none.mpr fun entry member => by simpa using absent entry member
      rw [none]

/-! ## Made panes -/

/-- A command has made a pane: it exited with 0 and printed the number of the pane, by which the
pane is called. -/
structure Made (making : Command) (events : List Event) (name : String) (n : Nat) : Prop where
  printed : ∃ output, .ran making (.ok output) ∈ events ∧ output.success = true ∧
    PrintsPane output.stdout n
  named : NameOf name n

theorem made_of_paneName? {making : Command} {events : List Event} {output : Output} {name : String}
    (ran : .ran making (.ok output) ∈ events) (success : output.success = true)
    (told : paneName? (Text.trim output.stdout) = some name) :
    ∃ n, Made making events name n := by
  obtain ⟨n, ⟨number, small⟩, named⟩ := paneName?_eq_some_iff.mp told
  exact ⟨n, ⟨output, ran, success, number, small⟩, named⟩

theorem splitPane_made (origin : String) (direction : Direction) (directory : String) :
    Emits (splitPane origin direction directory : Result ω String).run fun events result =>
      ∀ name, result = .ok name ↔ ∃ n, Made (splitting origin direction directory) events name n := by
  refine (splitPane_reads origin direction directory).emits.mono fun events result given name => ?_
  obtain ⟨reply, rfl, rfl⟩ := given
  constructor
  · intro told
    obtain ⟨output, answered, read⟩ := exists_of_bind_eq_ok told
    obtain ⟨rfl, success⟩ := resultOf_eq_ok answered
    obtain ⟨n, prints, named⟩ := paneNamed_eq_ok_iff.mp read
    exact ⟨n, ⟨output, List.mem_singleton_self _, success, prints⟩, named⟩
  · rintro ⟨n, ⟨output, ran, success, prints⟩, named⟩
    cases List.mem_singleton.mp ran
    rw [resultOf, if_pos success, Except.bind]
    exact paneNamed_eq_ok_iff.mpr ⟨n, prints, named⟩

/-- Of a tab that was given its title, the pane is looked for by its number. -/
theorem titleTab_finds (title : String) {name : String} {n : Nat} (named : NameOf name n) :
    Emits (titleTab title name : Result ω String).run fun events result =>
      ∀ id, result = .ok id ↔ ∃ reply last entries,
        events = [.ran listing last, .ran (titling title name) reply] ∧ reply.Succeeded ∧
          panesOf last = .ok entries ∧ FirstTab n entries id := by
  refine (titleTab_titled title name).mono fun events result titled id => ?_
  cases titled with
  | untitled refused => simp
  | unlisted titled unread =>
    refine iff_of_false nofun ?_
    rintro ⟨reply, last, entries, same, -, read, -⟩
    cases same
    cases unread.symm.trans read
  | @listed reply last output entries titled read =>
    rw [Except.ok.injEq, tabOf_eq_iff named]
    constructor
    · intro first
      obtain ⟨answered, success⟩ := resultOf_eq_ok titled
      exact ⟨reply, last, entries, rfl, ⟨output, answered, success⟩, read, first⟩
    · rintro ⟨_, _, entries', same, -, read', first⟩
      cases same
      cases read.symm.trans read'
      exact first

theorem createWindow_made (title directory : String) :
    Emits (createWindow title directory : Result ω Window).run fun events result =>
      ∀ window, result = .ok window → ∃ last entries n,
        Made (spawning directory) events window.pane n ∧
        events.head? = some (.ran listing last) ∧ panesOf last = .ok entries ∧
        FirstTab n entries window.id := by
  refine (createWindow_created title directory).mono fun events result created window same => ?_
  cases created with
  | unspawned first e => cases same
  | unnamed none first e => cases same
  | killed named untitled first last => cases same
  | @kept _ pane _ _ named titled first =>
    cases same
    obtain ⟨output, rfl, success, told⟩ := spawnedPane?_eq_some_iff.mp named
    cases titled with
    | @listed reply last _ entries titled read =>
      have ran : Event.ran (spawning directory) (.ok output) ∈
          [.ran listing last, .ran (titling title pane) reply] ++
            [.ran (spawning directory) (.ok output), .ran listing first] := by simp
      obtain ⟨n, made⟩ := made_of_paneName? ran success told
      exact ⟨last, entries, n, made, rfl, read, (tabOf_eq_iff made.named).mp rfl⟩

theorem listPanes_named (title : String) :
    Emits (listPanes title : Result ω (List String)).run fun events result =>
      ∃ reply, events = [.ran listing reply] ∧ ∀ entries, panesOf reply = .ok entries →
        ∃ names, result = .ok names ∧
          List.Forall₂ (fun entry name => NameOf name entry.pane)
            (entries.filter (·.title = title)) names := by
  refine (listPanes_reads title).emits.mono fun events result given => ?_
  obtain ⟨reply, rfl, rfl⟩ := given
  refine ⟨reply, rfl, fun entries read => ⟨_, by rw [read]; rfl, ?_⟩⟩
  rw [List.forall₂_map_right_iff, List.forall₂_same]
  intro entry member
  exact nameOf_listed read (List.mem_of_mem_filter member)

/-- **A pane is called by its number.** An output is read as a pane exactly if it is the number of
one, but for blanks around it, and then the pane is called by the shortest numeral of the number. So
it is called whether it was just made or is listed, and names are the same exactly if the numbers
are: the tab that is found for a pane is that of the first entry with its number, and what a listing
calls a pane is what it was called when it was made. -/
theorem panes_named_by_number (title directory origin : String) (direction : Direction) :
    (∀ operation printed (host : Host ω) (s : Session ω),
      let read := (paneOfOutput operation printed : Result ω String).run.perform host s
      read.2 = s ∧
      (read.1.isOk = true ↔ ∃ n, PrintsPane printed n) ∧
      (∀ n, PrintsPane printed n → ∃ name, read.1 = .ok name ∧ NameOf name n) ∧
      ∀ e, read.1 = .error e → e = .unexpectedOutput operation (Text.trim printed)) ∧
    (∀ name n, NameOf name n → paneName? name = some name ∧
      (∀ other m, NameOf other m → (name = other ↔ n = m)) ∧
      ∀ reply entries, panesOf reply = .ok entries → ∀ entry ∈ entries,
        name = toString entry.pane ↔ n = entry.pane) ∧
    Emits (createWindow title directory : Result ω Window).run (fun events result =>
      ∀ window, result = .ok window → ∃ last entries n,
        Made (spawning directory) events window.pane n ∧
        events.head? = some (.ran listing last) ∧ panesOf last = .ok entries ∧
        FirstTab n entries window.id) ∧
    Emits (splitPane origin direction directory : Result ω String).run (fun events result =>
      ∀ name, result = .ok name ↔
        ∃ n, Made (splitting origin direction directory) events name n) ∧
    (∀ name n, NameOf name n →
      Emits (titleTab title name : Result ω String).run fun events result =>
        ∀ id, result = .ok id ↔ ∃ reply last entries,
          events = [.ran listing last, .ran (titling title name) reply] ∧ reply.Succeeded ∧
            panesOf last = .ok entries ∧ FirstTab n entries id) ∧
    Emits (listPanes title : Result ω (List String)).run fun events result =>
      ∃ reply, events = [.ran listing reply] ∧ ∀ entries, panesOf reply = .ok entries →
        ∃ names, result = .ok names ∧
          List.Forall₂ (fun entry name => NameOf name entry.pane ∧
            ∀ made n, NameOf made n → (name = made ↔ entry.pane = n))
            (entries.filter (·.title = title)) names := by
  refine ⟨fun operation printed host s => ?_, fun name n named => ⟨named.read, ?_, ?_⟩,
    createWindow_made title directory, splitPane_made origin direction directory,
    fun name n named => titleTab_finds title named, ?_⟩
  · intro read
    have told : read = (paneNamed operation printed, s) := by
      rw [← perform_pure (paneNamed operation printed), ← paneOfOutput_run]
    rw [told]
    dsimp only
    exact ⟨rfl, isOk_paneNamed_iff, fun n => paneNamed_of_prints operation,
      fun e => paneNamed_eq_error⟩
  · exact fun other m named' => named.eq_iff named'
  · exact fun reply entries read entry member => named.eq_iff (nameOf_listed read member)
  · refine (listPanes_named title).mono fun events result given => ?_
    obtain ⟨reply, asked, told⟩ := given
    refine ⟨reply, asked, fun entries read => ?_⟩
    obtain ⟨names, listed, each⟩ := told entries read
    exact ⟨names, listed, each.imp fun entry name named =>
      ⟨named, fun made n named' => named.eq_iff named'⟩⟩

/-- A number may be printed with a plus sign, zeros and blanks; the pane is called by it alone. -/
theorem paddedNumber_names_pane :
    PrintsPane " +007\n" 7 ∧ NameOf "7" 7 ∧
      ((paneOfOutput "spawn" " +007\n" : Result Script String).run.perform Script.host
        { outside := [] }).1 = .ok "7" := by
  obtain ⟨number, small⟩ : Signed (Text.trim " +007\n").toList 7 ∧ 7 < 2 ^ 64 :=
    Text.Numeral.word64?_eq_some_iff.mp (by decide)
  have prints : PrintsPane " +007\n" 7 := ⟨number, small⟩
  obtain ⟨read, -⟩ := panes_named_by_number (ω := Script) "tm-demo" "trees/demo" "7" .horizontal
  obtain ⟨-, -, named, -⟩ := read "spawn" " +007\n" Script.host { outside := [] }
  obtain ⟨name, told, nameOf⟩ := named 7 prints
  have shown : toString 7 = "7" := by decide
  obtain rfl : name = "7" := (nameOf_iff.mp nameOf).1.trans shown
  exact ⟨prints, nameOf, told⟩

end Wezterm

end Worktop.Mux

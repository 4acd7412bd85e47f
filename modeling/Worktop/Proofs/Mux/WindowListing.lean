import Mathlib.Data.List.Basic
import Worktop.Proofs.Mux.Destruction
import Worktop.Proofs.Text.Lines
import Worktop.Rehearsal

/-! # Listings of windows in tmux

A window is listed on a line: its id, a tab and its name. What is done to the windows of a name
follows what such a listing says (`Worktop.Mux.Tmux.Follows`). Main statement: a listing says just
what was printed, and lines without a tab do not matter (`Worktop.Mux.Tmux.listing_read_back`).
-/

namespace Worktop.Mux.Tmux

open Act

variable {ω : Type}

/-! ## Windows and lines -/

/-- The line of a window, given by its id and name. -/
def lineOf (window : String × String) : String :=
  window.1 ++ "\t" ++ window.2

/-- A window whose line says what its id and its name are. -/
structure Printable (window : String × String) : Prop where
  noTab : '\t' ∉ window.1.toList
  noFeed : '\n' ∉ window.1.toList
  name : Text.OneLine window.2

instance (window : String × String) : Decidable (Printable window) :=
  decidable_of_iff ('\t' ∉ window.1.toList ∧ '\n' ∉ window.1.toList ∧ Text.OneLine window.2)
    ⟨fun holds => ⟨holds.1, holds.2.1, holds.2.2⟩,
      fun printable => ⟨printable.noTab, printable.noFeed, printable.name⟩⟩

/-- What is printed for windows: their lines, of which the last need not be ended. -/
def Prints (windows : List (String × String)) (listing : String) : Prop :=
  listing = Text.unlines (windows.map lineOf) ∨
    listing = Text.joinWith "\n" (windows.map lineOf)

theorem toList_lineOf (window : String × String) :
    (lineOf window).toList = window.1.toList ++ '\t' :: window.2.toList := by
  simp [lineOf]

theorem Printable.oneLine {window : String × String} (printable : Printable window) :
    Text.OneLine (lineOf window) where
  noFeed := by simp [toList_lineOf, printable.noFeed, printable.name.noFeed]
  noReturn := by
    rw [toList_lineOf, List.getLast?_append, List.getLast?_cons]
    cases last : window.2.toList.getLast? with
    | none => simp
    | some c => simpa [last] using printable.name.noReturn

theorem Printable.split {window : String × String} (printable : Printable window) :
    Text.splitFirst? '\t' (lineOf window) = some window :=
  Text.splitFirst?_append printable.noTab window.2

theorem windowsOfListing_of_lines {windows : List (String × String)} {listing : String}
    (printable : ∀ window ∈ windows, Printable window)
    (lines : Text.lines listing = windows.map lineOf) : windowsOfListing listing = windows := by
  have split : ∀ window ∈ windows, (Text.splitFirst? '\t' ∘ lineOf) window = some window :=
    fun window member => (printable window member).split
  rw [windowsOfListing, lines, List.filterMap_map, List.filterMap_congr split, List.filterMap_some]

theorem windowsOfListing_of_prints {windows : List (String × String)} {listing : String}
    (printable : ∀ window ∈ windows, Printable window) (prints : Prints windows listing) :
    windowsOfListing listing = windows := by
  have oneLine : ∀ line ∈ windows.map lineOf, Text.OneLine line := by
    intro line member
    obtain ⟨window, listed, rfl⟩ := List.mem_map.mp member
    exact (printable window listed).oneLine
  apply windowsOfListing_of_lines printable
  rcases prints with rfl | rfl
  · exact Text.lines_unlines_of_oneLine oneLine
  · apply Text.lines_joinWith_of_oneLine oneLine
    intro last
    obtain ⟨window, -, empty⟩ := List.mem_map.mp (List.mem_of_getLast? last)
    have absurdity : '\t' ∈ (lineOf window).toList := by simp [toList_lineOf]
    simp [empty] at absurdity

/-- Whether there is a tab on a line. -/
def Tabbed (line : String) : Prop := '\t' ∈ line.toList

instance : DecidablePred Tabbed := fun line => inferInstanceAs (Decidable ('\t' ∈ line.toList))

/-- Lines without a tab are passed over. -/
theorem windowsOfListing_eq_filterMap (listing : String) : windowsOfListing listing =
    ((Text.lines listing).filter Tabbed).filterMap (Text.splitFirst? '\t') := by
  rw [List.filterMap_filter, windowsOfListing]
  refine List.filterMap_congr fun line _ => ?_
  by_cases tabbed : Tabbed line
  · simp [tabbed]
  · simp [tabbed, Text.splitFirst?_eq_none_iff.mpr tabbed]

/-- Every other line is that of a window. -/
theorem map_lineOf_windowsOfListing (listing : String) :
    (windowsOfListing listing).map lineOf = (Text.lines listing).filter Tabbed := by
  rw [windowsOfListing, List.map_filterMap, ← List.filterMap_eq_filter]
  refine List.filterMap_congr fun line _ => ?_
  cases split : Text.splitFirst? '\t' line with
  | none =>
    have plain : ¬ Tabbed line := Text.splitFirst?_eq_none_iff.mp split
    simp [Option.guard, plain]
  | some window =>
    obtain ⟨rfl, -⟩ := Text.eq_append_of_splitFirst? split
    have tabbed : Tabbed (lineOf window) := by simp [Tabbed, toList_lineOf]
    have kept : Option.guard (fun line => decide (Tabbed line)) (lineOf window) =
        some (lineOf window) := by simp [Option.guard, tabbed]
    exact kept.symm

/-! ## What is asked of windows -/

/-- The command that lists the panes of a window. -/
def paneQuery (socket : Option String) (id : String) : Command :=
  command socket ["list-panes", "-t", id, "-F", "#\x7bpane_id\x7d"]

/-- What is told of the panes that were asked for. -/
def PanesTold (outputs : List Output) : Option Reply → Except Error (List String) → Prop
  | none, result => result = .ok (outputs.flatMap fun output => panesOfListing output.stdout)
  | some reply, result => ∃ e, resultOf "list-panes" reply = .error e ∧ result = .error e

/-- The panes of one more window come in front. -/
theorem PanesTold.cons {outputs : List Output} {failure? : Option Reply}
    {result : Except Error (List String)} (told : PanesTold outputs failure? result)
    (output : Output) :
    PanesTold (output :: outputs) failure? (result.map (panesOfListing output.stdout ++ ·)) := by
  cases failure? with
  | none =>
    change result = _ at told
    rw [told]
    rfl
  | some reply =>
    obtain ⟨e, refused, rfl⟩ := told
    exact ⟨e, refused, rfl⟩

/-- Windows are asked for their panes in turn, up to the first that cannot be. -/
theorem panesOf_inTurn (socket : Option String) (ids : List String) :
    Emits (panesOf socket ids : Result ω _).run fun events result => ∃ outputs failure?,
      InTurn (ids.map (paneQuery socket)) outputs failure? events ∧
        PanesTold outputs failure? result := by
  induction ids with
  | nil => exact emits_ok ⟨[], none, inTurn_nil, rfl⟩
  | cons id ids ih =>
    unfold panesOf
    refine (run_reads _ _).emits.andThen ?_ ?_
    · intro output old given
      obtain ⟨reply, rfl, read⟩ := given
      obtain ⟨rfl, success⟩ := resultOf_eq_ok read.symm
      refine ih.andThen ?_ ?_
      · intro panes later given
        obtain ⟨outputs, failure?, inTurn, told⟩ := given
        exact emits_ok ⟨output :: outputs, failure?, inTurn.cons (paneQuery socket id) success,
          told.cons output⟩
      · intro e later given
        obtain ⟨outputs, failure?, inTurn, told⟩ := given
        exact ⟨output :: outputs, failure?, inTurn.cons (paneQuery socket id) success,
          told.cons output⟩
    · intro e old given
      obtain ⟨reply, rfl, read⟩ := given
      have failed : ¬ reply.Succeeded := (resultOf_eq_error read.symm).2
      exact ⟨[], some reply, inTurn_failed failed _, e, read.symm, rfl⟩

theorem listPanes_opens (socket : Option String) (name : String) :
    Opens (listPanes socket name : Result ω _).run (listCommand socket) fun reply events result =>
      ∀ windows, windowsOf reply = .ok windows → ∃ outputs failure?,
        InTurn (((windows.filter (·.2 = name)).map (·.1)).map (paneQuery socket)) outputs failure?
          events ∧ PanesTold outputs failure? result := by
  refine (windowIds_reads socket name).opens ?_ ?_
  · intro reply ids told
    refine (panesOf_inTurn socket ids).mono fun events result given windows read => ?_
    rw [read] at told
    cases told
    exact given
  · intro reply e told windows read
    rw [read] at told
    cases told

/-- The windows of a host are taken to be these: they are what is told, and under a name those of
the name are killed, or asked for their panes, one after another. -/
structure Follows (socket : Option String) (host : Host ω) (s : Session ω)
    (windows : List (String × String)) : Prop where
  told : (Tmux.windows socket).run.perform host s =
    (.ok windows, s.asked host [listCommand socket])
  names : (listWindows socket).run.perform host s =
    (.ok (windows.map (·.2)), s.asked host [listCommand socket])
  kills : ∀ name, let run := (destroyWindow socket name).run.perform host s
    let ids := (windows.filter (·.2 = name)).map (·.1)
    ∃ events outputs failure?,
      run.2.journal = events ++ (s.asked host [listCommand socket]).journal ∧
      InTurn (ids.map fun id => command socket ["kill-window", "-t", id]) outputs failure? events ∧
      (run.1 = .error (.windowNotFound name) ↔ ids = [])
  asks : ∀ name, let run := (listPanes socket name).run.perform host s
    let ids := (windows.filter (·.2 = name)).map (·.1)
    ∃ events outputs failure?,
      run.2.journal = events ++ (s.asked host [listCommand socket]).journal ∧
      InTurn (ids.map (paneQuery socket)) outputs failure? events ∧
      PanesTold outputs failure? run.1

theorem follows_listing {socket : Option String} {host : Host ω} {s : Session ω}
    {windows : List (String × String)}
    (listed : windowsOf ((Act.exec (listCommand socket)).perform host s).1 = .ok windows) :
    Follows socket host s windows where
  told := (windows_reads socket).perform_eq listed
  names := (listWindows_reads socket).perform_eq (congrArg (Except.map _) listed)
  kills name := by
    let m : Multiplexer := { kind := .tmux, socket }
    obtain ⟨events, journal, destroys⟩ := m.destroyWindow_opens name host s
    have ids : (m.listedBy ((Act.exec (listCommand socket)).perform host s).1).map
        (Multiplexer.idsNamed name) = .ok ((windows.filter (·.2 = name)).map (·.1)) :=
      congrArg (Except.map (Multiplexer.idsNamed name)) listed
    obtain ⟨⟨outputs, failure?, inTurn, -⟩, -, missing, -⟩ := (ids ▸ destroys).told
    exact ⟨events, outputs, failure?, journal, inTurn, missing⟩
  asks name := by
    obtain ⟨events, journal, told⟩ := listPanes_opens socket name host s
    obtain ⟨outputs, failure?, inTurn, panes⟩ := told windows listed
    exact ⟨events, outputs, failure?, journal, inTurn, panes⟩

/-- **Windows are read back from the lines printed for them.** Whatever else is on a listing, lines
without a tab are passed over, and those with a tab are the lines of the windows that are read. -/
theorem listing_read_back (socket : Option String) :
    (∀ listing, (windowsOfListing listing).map lineOf = (Text.lines listing).filter Tabbed ∧
      (∀ window ∈ windowsOfListing listing, '\t' ∉ window.1.toList) ∧
      ∀ other, (Text.lines other).filter Tabbed = (Text.lines listing).filter Tabbed →
        windowsOfListing other = windowsOfListing listing) ∧
    ∀ (host : Host ω) (s : Session ω) (output : Output),
      ((Act.exec (listCommand socket)).perform host s).1 = .ok output → output.success = true →
      Follows socket host s (windowsOfListing output.stdout) ∧
      ∀ windows, (∀ window ∈ windows, Printable window) → Prints windows output.stdout →
        Follows socket host s windows := by
  refine ⟨fun listing => ⟨map_lineOf_windowsOfListing listing, ?_, ?_⟩, ?_⟩
  · exact fun window member => (listed_of_mem member).1
  · intro other same
    rw [windowsOfListing_eq_filterMap, same, ← windowsOfListing_eq_filterMap]
  · intro host s output answered success
    have listed : windowsOf ((Act.exec (listCommand socket)).perform host s).1 =
        .ok (windowsOfListing output.stdout) := by simp [answered, windowsOf, success]
    refine ⟨follows_listing listed, fun windows printable prints => ?_⟩
    rw [windowsOfListing_of_prints printable prints] at listed
    exact follows_listing listed

example : windowsOfListing "no server\n@1\teditor\n\n@2\t" = [("@1", "editor"), ("@2", "")] := by
  decide

/-- Windows whose names hold tabs and blanks, or nothing. -/
def oddlyNamed : List (String × String) :=
  [("@1", "editor"), ("@2", " logs\tof today "), ("@3", "")]

/-- Their lines, of which the last is not ended. -/
def oddLines : String :=
  Text.joinWith "\n" (oddlyNamed.map lineOf)

theorem oddlyNamed_read_back :
    let s : Session Script := { outside := [{ outcome := .ok { stdout := oddLines } }] }
    (∀ window ∈ oddlyNamed, Printable window) ∧ Prints oddlyNamed oddLines ∧
      ((windows none).run.perform Script.host s).1 = .ok oddlyNamed ∧
      ((listWindows none).run.perform Script.host s).1 =
        .ok ["editor", " logs\tof today ", ""] := by
  intro s
  have printable : ∀ window ∈ oddlyNamed, Printable window := by decide
  have prints : Prints oddlyNamed oddLines := .inr rfl
  obtain ⟨-, follows⟩ :=
    (listing_read_back none).2 Script.host s { stdout := oddLines } rfl rfl
  have seen := follows oddlyNamed printable prints
  exact ⟨printable, prints, congrArg Prod.fst seen.told, congrArg Prod.fst seen.names⟩

end Worktop.Mux.Tmux

import Worktop.Text.Blank
import Worktop.Text.Lines

/-! # Lines that are read back

What programs print line by line (`Worktop.Text.unlines`) is read line by line. A text that stands
on one line is read back as it was printed (`Worktop.Text.lines_unlines_of_oneLine`), and so are the
parts of a line around a separator (`Worktop.Text.splitFirst?_append`), which is what makes a
listing say what is listed. Lines may be ended in other ways (`Worktop.Text.Ended`); then they are
read back but for the blanks at their ends (`Worktop.Text.Ended.trimmed`).
-/

namespace Worktop.Text

/-- A text that stands on one line as it is. -/
structure SingleLine (s : String) : Prop where
  noFeed : '\n' ∉ s.toList
  tidy : ∀ c, s.toList.getLast? = some c → isBlank c = false

instance (s : String) : Decidable (SingleLine s) :=
  decidable_of_iff ('\n' ∉ s.toList ∧ s.toList.getLast?.all (fun c => !isBlank c) = true)
    ⟨fun holds => ⟨holds.1, by simpa [Option.all_eq_true] using holds.2⟩,
      fun single => ⟨single.noFeed, by simpa [Option.all_eq_true] using single.tidy⟩⟩

/-- A text that stands on one line, but may end in a blank. -/
structure OneLine (s : String) : Prop where
  noFeed : '\n' ∉ s.toList
  noReturn : s.toList.getLast? ≠ some '\r'

instance (s : String) : Decidable (OneLine s) :=
  decidable_of_iff ('\n' ∉ s.toList ∧ s.toList.getLast? ≠ some '\r')
    ⟨fun holds => ⟨holds.1, holds.2⟩, fun oneLine => ⟨oneLine.noFeed, oneLine.noReturn⟩⟩

theorem SingleLine.oneLine {s : String} (single : SingleLine s) : OneLine s where
  noFeed := single.noFeed
  noReturn := fun last => absurd (single.tidy '\r' last) (by decide)

/-- Lines, each ended by a line feed. -/
def unlines (ls : List String) : String :=
  String.ofList (ls.flatMap fun l => l.toList ++ ['\n'])

/-- Lines as a text: each is ended by a line feed, perhaps with a carriage return before it, but the
last need not be ended. -/
inductive Ended : List String → String → Prop
  | nothing : Ended [] ""
  | feed {line text : String} {ls : List String} (noFeed : '\n' ∉ line.toList)
      (rest : Ended ls text) : Ended (line :: ls) (line ++ "\n" ++ text)
  | returnFeed {line text : String} {ls : List String} (noFeed : '\n' ∉ line.toList)
      (rest : Ended ls text) : Ended (line :: ls) (line ++ "\r\n" ++ text)
  | unended {line : String} (noFeed : '\n' ∉ line.toList) (filled : line ≠ "") :
      Ended [line] line

namespace Chars

theorem linesFrom_append {line : List Char} (noFeed : '\n' ∉ line) (pending rest : List Char) :
    linesFrom pending (line ++ '\n' :: rest) =
      dropReturn (pending.reverse ++ line) :: linesFrom [] rest := by
  induction line generalizing pending with
  | nil => simp [linesFrom]
  | cons c cs ih =>
    have plain : c ≠ '\n' := fun same => noFeed (same ▸ List.mem_cons_self)
    have rest : '\n' ∉ cs := fun member => noFeed (List.mem_cons_of_mem _ member)
    simp [linesFrom, plain, ih rest]

theorem linesFrom_of_noFeed {line : List Char} (noFeed : '\n' ∉ line) (pending : List Char) :
    linesFrom pending line =
      if pending = [] ∧ line = [] then [] else [pending.reverse ++ line] := by
  induction line generalizing pending with
  | nil => by_cases empty : pending = [] <;> simp [linesFrom, empty]
  | cons c cs ih =>
    have plain : c ≠ '\n' := fun same => noFeed (same ▸ List.mem_cons_self)
    have rest : '\n' ∉ cs := fun member => noFeed (List.mem_cons_of_mem _ member)
    simp [linesFrom, plain, ih rest]

theorem lines_flatMap {ls : List (List Char)} (noFeed : ∀ l ∈ ls, '\n' ∉ l) :
    lines (ls.flatMap fun l => l ++ ['\n']) = ls.map dropReturn := by
  induction ls with
  | nil => simp [lines, linesFrom]
  | cons l ls ih =>
    have first := linesFrom_append (noFeed l List.mem_cons_self) []
      (ls.flatMap fun l => l ++ ['\n'])
    have others := ih fun l' member => noFeed l' (List.mem_cons_of_mem _ member)
    simp only [lines] at others ⊢
    simp [first, others]

/-- A carriage return at the end of a line is a blank there. -/
theorem trimEnd_dropReturn (line : List Char) : trimEnd (dropReturn line) = trimEnd line := by
  unfold dropReturn
  split
  · rename_i last
    obtain ⟨front, rfl⟩ := List.getLast?_eq_some_iff.mp last
    have blank : isBlank '\r' = true := by decide
    simp [trimEnd, blank]
  · rfl

theorem trimEnd_of_tidy {cs : List Char}
    (tidy : ∀ c, cs.getLast? = some c → isBlank c = false) : trimEnd cs = cs := by
  rcases List.eq_nil_or_concat cs with rfl | ⟨front, last, rfl⟩
  · rfl
  · have shown : isBlank last = false := tidy last (by simp)
    simp [trimEnd, shown]

/-- Trimming reaches into the front of a text only where the back of it is blank. -/
theorem trimEnd_append (front back : List Char) :
    trimEnd (front ++ back) =
      if trimEnd back = [] then trimEnd front else front ++ trimEnd back := by
  unfold trimEnd
  rw [List.reverse_append, List.dropWhile_append]
  by_cases blank : back.reverse.dropWhile isBlank = []
  · simp [blank]
  · simp [blank]

/-- Trimming takes blanks off both ends. -/
theorem trim_parts (cs : List Char) :
    ∃ trail, cs = cs.takeWhile isBlank ++ trim cs ++ trail ∧ ∀ c ∈ trail, isBlank c = true := by
  refine ⟨((trimStart cs).reverse.takeWhile isBlank).reverse, ?_, ?_⟩
  · rw [List.append_assoc, trim, trimEnd, ← List.reverse_append, List.takeWhile_append_dropWhile,
      List.reverse_reverse, trimStart, List.takeWhile_append_dropWhile]
  · intro c member
    exact (List.all_eq_true.mp List.all_takeWhile) c (List.mem_reverse.mp member)

/-- A text without the separator is the first part, and there is nothing behind it. -/
theorem splitFirst?_getD (sep : Char) (cs : List Char) :
    (splitFirst? sep cs).getD (cs, []) =
      (cs.takeWhile (· ≠ sep), (cs.dropWhile (· ≠ sep)).tail) := by
  induction cs with
  | nil => rfl
  | cons c cs ih =>
    by_cases same : c = sep
    · simp [splitFirst?, same]
    · cases split : splitFirst? sep cs with
      | none => simpa [splitFirst?, same, split] using ih
      | some parts => simpa [splitFirst?, same, split, Prod.ext_iff] using ih

theorem splitFirst?_append {sep : Char} {first : List Char} (absent : sep ∉ first)
    (second : List Char) : splitFirst? sep (first ++ sep :: second) = some (first, second) := by
  induction first with
  | nil => simp [splitFirst?]
  | cons c cs ih =>
    have plain : c ≠ sep := fun same => absent (same ▸ List.mem_cons_self)
    have rest : sep ∉ cs := fun member => absent (List.mem_cons_of_mem _ member)
    simp [splitFirst?, plain, ih rest]

theorem splitFirst?_eq_none_iff {sep : Char} {cs : List Char} :
    splitFirst? sep cs = none ↔ sep ∉ cs := by
  induction cs with
  | nil => simp [splitFirst?]
  | cons c cs ih =>
    by_cases same : c = sep
    · simp [splitFirst?, same]
    · simp [splitFirst?, same, ih, Ne.symm same]

theorem eq_append_of_splitFirst? {sep : Char} {cs first second : List Char}
    (split : splitFirst? sep cs = some (first, second)) :
    cs = first ++ sep :: second ∧ sep ∉ first := by
  induction cs generalizing first with
  | nil => simp [splitFirst?] at split
  | cons c cs ih =>
    unfold splitFirst? at split
    split at split
    · rename_i same
      cases split
      exact ⟨by rw [same]; rfl, List.not_mem_nil⟩
    · rename_i different
      obtain ⟨⟨front, back⟩, inner, same⟩ := Option.map_eq_some_iff.mp split
      cases same
      obtain ⟨rfl, absent⟩ := ih inner
      refine ⟨rfl, fun member => ?_⟩
      rcases List.mem_cons.mp member with same | inFront
      · exact different same.symm
      · exact absent inFront

theorem dropLead?_append (lead rest : List Char) : dropLead? lead (lead ++ rest) = some rest := by
  induction lead with
  | nil => rfl
  | cons c cs ih => simp [dropLead?, ih]

end Chars

@[simp] theorem toList_unlines (ls : List String) :
    (unlines ls).toList = ls.flatMap fun l => l.toList ++ ['\n'] := by
  simp [unlines]

/-- Printed lines are read back, but for a carriage return at their ends. -/
theorem lines_unlines {ls : List String} (noFeed : ∀ l ∈ ls, '\n' ∉ l.toList) :
    lines (unlines ls) = ls.map fun l => String.ofList (Chars.dropReturn l.toList) := by
  have chars : Chars.lines ((ls.map String.toList).flatMap fun l => l ++ ['\n']) =
      (ls.map String.toList).map Chars.dropReturn := by
    apply Chars.lines_flatMap
    intro l member
    obtain ⟨line, present, rfl⟩ := List.mem_map.mp member
    exact noFeed line present
  rw [List.flatMap_map] at chars
  unfold lines
  rw [toList_unlines, chars]
  simp [Function.comp_def]

theorem lines_unlines_of_oneLine {ls : List String} (oneLine : ∀ l ∈ ls, OneLine l) :
    lines (unlines ls) = ls := by
  have read : ∀ l ∈ ls, String.ofList (Chars.dropReturn l.toList) = id l := by
    intro l member
    simp [Chars.dropReturn, (oneLine l member).noReturn]
  have noFeed : ∀ l ∈ ls, '\n' ∉ l.toList := fun l member => (oneLine l member).noFeed
  rw [lines_unlines noFeed, List.map_congr_left read, List.map_id]

/-- A line of a text is read first, and then those after it. -/
theorem lines_append {line : String} (oneLine : OneLine line) (text : String) :
    lines (line ++ "\n" ++ text) = line :: lines text := by
  have shape : (line ++ "\n" ++ text).toList = line.toList ++ '\n' :: text.toList := by simp
  have first := Chars.linesFrom_append oneLine.noFeed [] text.toList
  unfold lines Chars.lines
  rw [shape, first]
  simp [Chars.dropReturn, oneLine.noReturn]

theorem lines_of_oneLine {line : String} (oneLine : OneLine line) (filled : line ≠ "") :
    lines line = [line] := by
  have whole := Chars.linesFrom_of_noFeed oneLine.noFeed []
  unfold lines Chars.lines
  rw [whole]
  simp [filled]

/-- Lines are read back from a text that has line feeds between them only, if the last is not
empty. -/
theorem lines_joinWith_of_oneLine {ls : List String} (oneLine : ∀ l ∈ ls, OneLine l)
    (filled : ls.getLast? ≠ some "") : lines (joinWith "\n" ls) = ls := by
  fun_induction joinWith "\n" ls with
  | case1 => rfl
  | case2 l => exact lines_of_oneLine (oneLine l List.mem_cons_self) (by simpa using filled)
  | case3 l next rest ih =>
    have others : ∀ other ∈ next :: rest, OneLine other := fun other member =>
      oneLine other (List.mem_cons_of_mem _ member)
    rw [lines_append (oneLine l List.mem_cons_self), ih others (by simpa using filled)]

theorem ended_unlines {ls : List String} (noFeed : ∀ l ∈ ls, '\n' ∉ l.toList) :
    Ended ls (unlines ls) := by
  induction ls with
  | nil => exact .nothing
  | cons l ls ih =>
    have first : unlines (l :: ls) = l ++ "\n" ++ unlines ls := by
      rw [← String.toList_inj]
      simp
    rw [first]
    exact .feed (noFeed l List.mem_cons_self)
      (ih fun other member => noFeed other (List.mem_cons_of_mem _ member))

/-- Whatever ends its lines, a text is read as these, but for the blanks at their ends. -/
theorem Ended.trimmed {ls : List String} {text : String} (ended : Ended ls text) :
    (lines text).map trimEnd = ls.map trimEnd := by
  have next : ∀ {line feed text : String} {read : List Char}, '\n' ∉ read →
      (line ++ feed ++ text).toList = read ++ '\n' :: text.toList →
      Chars.trimEnd (Chars.dropReturn read) = Chars.trimEnd line.toList →
      (lines (line ++ feed ++ text)).map trimEnd =
        trimEnd line :: (lines text).map trimEnd := by
    intro line feed text read noFeed shape same
    have first := Chars.linesFrom_append noFeed [] text.toList
    unfold lines Chars.lines
    rw [shape, first]
    simp [trimEnd, same]
  induction ended with
  | nothing => rfl
  | @feed line text ls noFeed rest ih =>
    rw [next noFeed (by simp) (Chars.trimEnd_dropReturn _), ih]
    rfl
  | @returnFeed line text ls noFeed rest ih =>
    have read : '\n' ∉ line.toList ++ ['\r'] := by simpa using noFeed
    rw [next read (by simp) (by simp [Chars.dropReturn]), ih]
    rfl
  | @unended line noFeed filled =>
    have whole := Chars.linesFrom_of_noFeed noFeed []
    unfold lines Chars.lines
    rw [whole]
    simp [filled]

/-- A text without blanks at its ends is what trimming leaves of a line. -/
theorem trim_line {line : String} (front : ∀ c, line.toList.head? = some c → isBlank c = false)
    (tidy : ∀ c, line.toList.getLast? = some c → isBlank c = false) :
    trim (line ++ "\n") = line := by
  have feed : isBlank '\n' = true := by decide
  have kept : Chars.trimStart (line.toList ++ ['\n']) = line.toList ++ ['\n'] ∨
      line.toList = [] := by
    cases text : line.toList with
    | nil => exact .inr rfl
    | cons c cs => exact .inl (by simp [Chars.trimStart, front c (by simp [text])])
  rw [← String.toList_inj, toList_trim, String.toList_append, Chars.trim]
  rcases kept with same | empty
  · change Chars.trimEnd (Chars.trimStart (line.toList ++ ['\n'])) = _
    rw [same]
    have dropped : Chars.trimEnd (line.toList ++ ['\n']) = Chars.trimEnd line.toList := by
      simp [Chars.trimEnd, feed]
    rw [dropped, Chars.trimEnd_of_tidy tidy]
  · rw [empty]
    decide

theorem splitFirst?_append {sep : Char} {first : String} (absent : sep ∉ first.toList)
    (second : String) :
    splitFirst? sep (first ++ String.singleton sep ++ second) = some (first, second) := by
  simp [splitFirst?, Chars.splitFirst?_append absent]

theorem splitFirst?_eq_none_iff {sep : Char} {s : String} :
    splitFirst? sep s = none ↔ sep ∉ s.toList := by
  simp [splitFirst?, Chars.splitFirst?_eq_none_iff]

theorem eq_append_of_splitFirst? {sep : Char} {s first second : String}
    (split : splitFirst? sep s = some (first, second)) :
    s = first ++ String.singleton sep ++ second ∧ sep ∉ first.toList := by
  obtain ⟨⟨front, back⟩, inner, same⟩ := Option.map_eq_some_iff.mp split
  cases same
  obtain ⟨whole, absent⟩ := Chars.eq_append_of_splitFirst? inner
  refine ⟨?_, by simpa using absent⟩
  rw [← String.toList_inj]
  simpa using whole

theorem dropLead?_append (lead rest : String) : dropLead? lead (lead ++ rest) = some rest := by
  simp [dropLead?, Chars.dropLead?_append]

end Worktop.Text

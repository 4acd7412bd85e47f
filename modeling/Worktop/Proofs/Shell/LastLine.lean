import Worktop.Proofs.Shell.Scan
import Worktop.Proofs.Text.Lines

/-! # The line below a command

A line feed ends a line just where nothing is open before it
(`Worktop.Shell.Scan.step_newline_iff`), and what stands below is read as if it stood alone
(`Worktop.Shell.Scan.scan_below`). Blanks open and close nothing, so trimming a command leaves no
quote and no expansion open that the command has closed, but it may take a blank from its backslash.
So much decides whether the login shell below the command of a pane is started
(`Worktop.LoginShell.login_shell_remains_iff`).
-/

namespace Worktop

open Text (isBlank)

namespace Shell

namespace Scan

/-! ## Where nothing is open -/

/-- The line of a here-document that has been read so far is its last one, and no other
here-document follows. -/
def Level.isComplete (l : Level) : Bool :=
  match l.spot with
  | .document here others line => others.isEmpty && !here.continues line && here.endedBy line
  | _ => true

/-- No here-document is announced, due or incomplete. -/
structure Level.Undue (l : Level) : Prop where
  announced : l.announced = none
  due : l.due = []
  complete : l.isComplete = true

instance (l : Level) : Decidable l.Undue :=
  decidable_of_iff (l.announced = none ∧ l.due = [] ∧ l.isComplete = true)
    ⟨fun holds => ⟨holds.1, holds.2.1, holds.2.2⟩,
      fun undue => ⟨undue.announced, undue.due, undue.complete⟩⟩

/-- A quote or an expansion has not been closed. -/
def Open (s : Scan) : Prop :=
  s.frames ≠ [] ∨ s.mark = .opened

instance (s : Scan) : Decidable s.Open :=
  inferInstanceAs (Decidable (_ ∨ _))

theorem not_open_iff {s : Scan} : ¬ s.Open ↔ s.frames = [] ∧ s.mark ≠ .opened := by
  simp [Open]

/-- Nothing is open: no quote and no expansion, the last character takes no meaning from the next
one, and no here-document is to come. -/
structure Settled (s : Scan) : Prop where
  closed : ¬ s.Open
  unescaped : s.escaped = false
  undue : s.ground.Undue

/-! ## Lines -/

theorem isOperator_newline (source : List Char) : isOperator (source ++ ['\n']) = false := by
  have plain : ∀ operator ∈ Lexer.operators.map String.toList, '\n' ∉ operator := by decide
  rw [isOperator, List.contains_eq_mem, decide_eq_false_iff_not]
  intro member
  exact plain _ member (by simp)

theorem Level.read_newline {l : Level} (command : ∀ here others line,
    l.spot ≠ .document here others line) : l.read '\n' = l.endLine := by
  unfold read
  split
  · rfl
  · rename_i here others line spot
    exact absurd spot (command here others line)
  · simp [isOperator_newline, readApart]
  · rfl

/-- A line of commands ends at a line feed unless a here-document is below it. -/
theorem Level.endLine_iff {l : Level} (command : ∀ here others line,
    l.spot ≠ .document here others line) :
    l.endLine = ({}, l.delimit.2 ++ [.lineEnd]) ↔ l.Undue := by
  obtain ⟨spot, announced, due⟩ := l
  have undue : Level.Undue ⟨spot, announced, due⟩ ↔ announced = none ∧ due = [] := by
    refine ⟨fun undue => ⟨undue.announced, undue.due⟩, fun given => ⟨given.1, given.2, ?_⟩⟩
    cases spot with
    | document here others line => exact absurd rfl (command here others line)
    | _ => rfl
  rw [undue]
  cases spot with
  | document here others line => exact absurd rfl (command here others line)
  | word source =>
    cases due with
    | nil => cases announced <;> simp [endLine, delimit]
    | cons here others => simp [endLine, delimit]
  | _ =>
    cases due with
    | nil => simp [endLine, delimit]
    | cons here others => simp [endLine, delimit]

theorem Level.read_newline_iff (l : Level) :
    l.read '\n' = ({}, l.delimit.2 ++ [.lineEnd]) ↔ l.Undue := by
  cases spot : l.spot with
  | document here others line =>
    obtain ⟨_, announced, due⟩ := l
    cases spot
    have undue : Level.Undue ⟨.document here others line, announced, due⟩ ↔ announced = none ∧
        due = [] ∧ (others = [] ∧ here.continues line = false) ∧ here.endedBy line = true := by
      refine ⟨fun undue => ⟨undue.announced, undue.due, ?_⟩, fun given => ⟨given.1, given.2.1, ?_⟩⟩
      · simpa [isComplete] using undue.complete
      · simpa [isComplete] using given.2.2
    rw [undue]
    by_cases continues : here.continues line = true
    · simp [read, delimit, continues]
    · by_cases ended : here.endedBy line = true
      · cases others <;> simp [read, delimit, continues, ended]
      · simp [read, delimit, continues, ended]
  | _ =>
    have command : ∀ here others line, l.spot ≠ .document here others line := by simp [spot]
    rw [read_newline command]
    exact endLine_iff command

/-! ## Blanks -/

/-- No blank opens or closes anything. -/
theorem plain_of_blank {c : Char} (blank : isBlank c = true) :
    c ≠ '\'' ∧ c ≠ '"' ∧ c ≠ '`' ∧ c ≠ '$' ∧ c ≠ '(' ∧ c ≠ ')' ∧ c ≠ '\x7b' ∧ c ≠ '\x7d' ∧
      c ≠ '\\' := by
  refine ⟨?_, ?_, ?_, ?_, ?_, ?_, ?_, ?_, ?_⟩
  all_goals
    rintro rfl
    exact absurd blank (by decide)

variable {s : Scan} {c : Char}

theorem put_frames (opened : s.frames ≠ []) : (s.put c).1.frames ≠ [] := by
  unfold put
  split
  · rename_i closed
    exact absurd closed opened
  · exact List.cons_ne_nil _ _
  · simpa using opened

theorem entered_frames (opened : s.Open) : s.entered.frames ≠ [] := by
  unfold entered
  split
  · exact List.cons_ne_nil _ _
  · rename_i unopened
    exact opened.resolve_right unopened

theorem read_blank (blank : isBlank c = true) (opened : s.frames ≠ []) :
    (s.read c).1.frames ≠ [] := by
  obtain ⟨-, -, -, -, openParenthesis, closeParenthesis, -, -, -⟩ := plain_of_blank blank
  unfold read
  split
  · rename_i closed
    exact absurd closed opened
  · simp [push, openParenthesis, closeParenthesis]
  · simpa using opened

theorem interpret_blank (blank : isBlank c = true) (opened : s.frames ≠ []) :
    (s.interpret c).1.frames ≠ [] := by
  obtain ⟨single, double, back, dollar, openParenthesis, closeParenthesis, -, brace, -⟩ :=
    plain_of_blank blank
  have put : (s.put c).1.frames ≠ [] := put_frames opened
  have read := read_blank blank opened
  unfold interpret
  split
  all_goals simpa only [single, double, back, dollar, openParenthesis, closeParenthesis, brace,
    decide_false, Bool.false_and, Bool.false_eq_true, ↓reduceIte]

theorem readOpen_blank (blank : isBlank c = true) (opened : s.Open) : (s.readOpen c).1.Open := by
  obtain ⟨-, -, -, dollar, parenthesis, -, brace, -, backslash⟩ := plain_of_blank blank
  have entered := entered_frames opened
  unfold readOpen
  simp only [dollar, parenthesis, brace, backslash, decide_false, Bool.and_false,
    Bool.false_eq_true, ↓reduceIte]
  split
  · split
    · exact opened
    · exact .inl (put_frames (put_frames entered))
  · exact .inl (interpret_blank blank entered)

/-- What is open stays open behind a blank. -/
theorem step_blank (blank : isBlank c = true) (opened : s.Open) : (s.step c).1.Open := by
  unfold step
  split
  · exact .inl (read_blank blank (entered_frames opened))
  · split
    · rename_i frames
      exact .inl (interpret_blank blank (by rw [frames]; exact List.cons_ne_nil _ _))
    · exact readOpen_blank blank opened

theorem run_blank {cs : List Char} (blank : ∀ c ∈ cs, isBlank c = true) (opened : s.Open) :
    (s.run cs).1.Open := by
  induction cs generalizing s with
  | nil => exact opened
  | cons c cs ih =>
    obtain ⟨first, rest⟩ := List.forall_mem_cons.mp blank
    exact ih rest (step_blank first opened)

/-! ## The line feed -/

/-- A line feed outside quotes and expansions is read by the commands of the script itself. -/
theorem step_newline_of_closed (closed : ¬ s.Open) (unescaped : s.escaped = false) :
    s.step '\n' = ({ s with ground := (s.ground.read '\n').1, mark := .plain },
      (s.ground.read '\n').2) := by
  obtain ⟨ground, frames, mark, escaped⟩ := s
  obtain rfl : escaped = false := unescaped
  obtain ⟨rfl, unopened⟩ := not_open_iff.mp closed
  cases mark with
  | opened => exact absurd rfl unopened
  | plain | dollar =>
    unfold step
    split
    · rfl
    · rfl

/-- A line feed behind a backslash ends no line. -/
theorem step_newline_of_escaped (closed : ¬ s.Open) (escaped : s.escaped = true) :
    (s.step '\n').1.escaped = true ∨ (s.step '\n').2 = [] := by
  obtain ⟨ground, frames, mark, backslash⟩ := s
  obtain rfl : backslash = true := escaped
  obtain ⟨rfl, unopened⟩ := not_open_iff.mp closed
  cases mark with
  | opened => exact absurd rfl unopened
  | plain | dollar =>
    unfold step
    split
    · exact .inl rfl
    · exact .inr rfl

/-- A line feed ends a line just where nothing is open before it. -/
theorem step_newline_iff (s : Scan) :
    s.step '\n' = ({}, s.finish ++ [.lineEnd]) ↔ s.Settled := by
  by_cases opened : s.Open
  · refine iff_of_false (fun ends => ?_) fun settled => settled.closed opened
    have still := step_blank (c := '\n') (by decide) opened
    rw [ends] at still
    change Open {} at still
    exact absurd still (by decide)
  cases escaped : s.escaped with
  | true =>
    refine iff_of_false (fun ends => ?_) fun settled => ?_
    · rcases step_newline_of_escaped opened escaped with still | silent
      · rw [ends] at still
        cases still
      · rw [ends] at silent
        simp at silent
    · rw [settled.unescaped] at escaped
      cases escaped
  | false =>
    have finish : s.finish = s.ground.delimit.2 := by simp [Scan.finish, escaped]
    have settled : s.Settled ↔ s.ground.Undue :=
      ⟨Settled.undue, fun undue => ⟨opened, escaped, undue⟩⟩
    rw [settled, ← Level.read_newline_iff, step_newline_of_closed opened escaped, finish]
    have frames := (not_open_iff.mp opened).1
    simp [Prod.ext_iff, Scan.ext_iff, frames, escaped]

/-! ## Backslashes -/

@[simp] theorem put_escaped (s : Scan) (c : Char) : (s.put c).1.escaped = s.escaped := by
  unfold put
  split <;> rfl

@[simp] theorem entered_escaped (s : Scan) : s.entered.escaped = s.escaped := by
  unfold entered
  split <;> rfl

@[simp] theorem read_escaped (s : Scan) (c : Char) : (s.read c).1.escaped = s.escaped := by
  unfold read
  split
  · rfl
  · dsimp only
    repeat' split
    all_goals rfl
  · rfl

@[simp] theorem interpret_escaped (s : Scan) (c : Char) :
    (s.interpret c).1.escaped = s.escaped := by
  unfold interpret
  repeat' split
  all_goals simp [push, pop]

/-- A backslash takes the next character only where it does not mean itself. -/
def Sound (s : Scan) : Prop :=
  s.escaped = true → s.isText = false ∧ ∀ rest, s.frames ≠ .single :: rest

theorem readOpen_unescaped (other : c ≠ '\\') : (s.readOpen c).1.escaped = false := by
  unfold readOpen
  by_cases escaped : s.escaped = true
  · by_cases newline : c = '\n' <;> simp [escaped, newline]
  · simp only [escaped, other, Bool.false_eq_true, ↓reduceIte]
    repeat' split
    all_goals simpa [push] using escaped

theorem readOpen_backslash (s : Scan) :
    (s.readOpen '\\').1.escaped = false ∨ (s.readOpen '\\').1 = { s with escaped := true } := by
  unfold readOpen
  by_cases escaped : s.escaped = true
  · simp [escaped]
  · simp [escaped]

/-- Only a backslash takes the character behind it. -/
theorem step_escaped (sound : s.Sound) :
    (s.step c).1.Sound ∧ ((s.step c).1.escaped = true → c = '\\') := by
  unfold step
  split
  · rename_i text
    have unescaped : s.escaped = false := by
      refine eq_false_of_ne_true fun escaped => ?_
      have command := (sound escaped).1
      rw [text] at command
      cases command
    simp [Sound, unescaped]
  · rename_i command
    split
    · rename_i rest frames
      have unescaped : s.escaped = false :=
        eq_false_of_ne_true fun escaped => (sound escaped).2 rest frames
      simp [Sound, unescaped]
    · rename_i outside
      by_cases backslash : c = '\\'
      · obtain rfl := backslash
        refine ⟨?_, fun _ => rfl⟩
        intro escaped
        rcases readOpen_backslash s with unescaped | same
        · rw [unescaped] at escaped
          cases escaped
        · rw [same]
          exact ⟨eq_false_of_ne_true command, outside⟩
      · simp [Sound, readOpen_unescaped backslash]

theorem run_escaped {cs : List Char} (sound : s.Sound) (escaped : (s.run cs).1.escaped = true) :
    (cs = [] ∧ s.escaped = true) ∨ cs.getLast? = some '\\' := by
  induction cs generalizing s with
  | nil => exact .inl ⟨rfl, escaped⟩
  | cons c cs ih =>
    obtain ⟨soundNext, backslash⟩ := step_escaped (c := c) sound
    refine .inr ?_
    rcases ih soundNext escaped with ⟨rfl, here⟩ | last
    · rw [backslash here]
      rfl
    · cases cs with
      | nil => cases last
      | cons d ds => simpa using last

/-- A script whose last character takes the next one ends in a backslash. -/
theorem ends_in_backslash {script : List Char} (escaped : (run {} script).1.escaped = true) :
    script.getLast? = some '\\' := by
  have sound : Sound {} := fun absurd => by cases absurd
  rcases run_escaped sound escaped with ⟨-, fresh⟩ | last
  · cases fresh
  · exact last

/-! ## Words of a line -/

/-- The state in a word of the script itself, if one has begun, outside of quotes. -/
def within (word : Option (List Char)) : Scan where
  ground := { spot := word.elim .between .word }

/-- A text that is part of a word, whatever is around it, and opens nothing. -/
def Joins (text : List Char) : Prop :=
  ∀ before, (within before).run text = (within (some (before.getD [] ++ text)), [])

variable {text text' : List Char}

theorem Joins.append (first : Joins text) (second : Joins text') : Joins (text ++ text') := by
  intro before
  simp [run_append, first before, second (some _)]

theorem Joins.before_separator (joins : Joins text) (rest : List Char) :
    run {} (text ++ ' ' :: rest) = ((run {} rest).1, .word text :: (run {} rest).2) := by
  have whole : run {} text = (within (some text), []) := joins none
  rw [run_append, whole, run_cons]
  rfl

theorem Joins.at_end (joins : Joins text) : scan text = [.word text] := by
  have whole : run {} text = (within (some text), []) := joins none
  rw [scan, whole]
  rfl

theorem joins_char {c : Char} (bare : isBareChar c = true) : Joins [c] := by
  obtain ⟨single, backslash, separator, active⟩ := plain_of_bare bare
  have inactive : ∀ d, isActive d = true → c ≠ d := by
    rintro d acts rfl
    rw [active] at acts
    cases acts
  have double := inactive '"' (by decide)
  have back := inactive '`' (by decide)
  have dollar := inactive '$' (by decide)
  have newline := inactive '\n' (by decide)
  have hash := inactive '#' (by decide)
  have operator : isOperator [c] = false := by
    have actives : ∀ source ∈ Lexer.operators.map String.toList,
        source.length = 1 → source.all isActive = true := by decide
    refine eq_false_of_ne_true fun isOne => ?_
    have acts := actives [c] (List.contains_iff_mem.mp isOne) rfl
    simp [active] at acts
  have step : ∀ before, (within before).step c = (within (some (before.getD [] ++ [c])), []) := by
    intro before
    cases before
    all_goals simp [Scan.step, isText, within, Level.isText, readOpen, entered, interpret, Scan.read,
      Level.read, Level.readApart, Level.extend, Level.delimit, single, backslash, separator, double,
      back, dollar, newline, hash, operator]
  intro before
  rw [run_cons, step]
  rfl

theorem joins_bare (filled : text ≠ []) (bare : ∀ c ∈ text, isBareChar c = true) : Joins text :=
  bare_induction (fun _ => joins_char) (fun _ _ => Joins.append) filled bare

/-- A text as it is written between single quotes, which it leaves where one of them stands in it,
stays between them. -/
theorem run_quoted (cs source : List Char) :
    run ((within (some source)).push .single)
        (cs.flatMap fun c => if c = '\'' then ['\'', '\\', '\'', '\''] else [c]) =
      ((within (some (source ++
        cs.flatMap fun c => if c = '\'' then ['\'', '\\', '\'', '\''] else [c]))).push .single,
        []) := by
  induction cs generalizing source with
  | nil => simp
  | cons c cs ih =>
    rw [List.flatMap_cons, run_append]
    by_cases quote : c = '\''
    · have escape :
          run ((within (some source)).push .single) ['\'', '\\', '\'', '\''] =
            ((within (some (source ++ ['\''] ++ ['\\'] ++ ['\''] ++ ['\'']))).push .single, []) :=
        rfl
      simp [quote, escape, ih]
    · have plain : run ((within (some source)).push .single) [c] =
          ((within (some (source ++ [c]))).push .single, []) := by
        simp [run_cons, step, isText, interpret, put, push, quote, within, Level.note, Frame.note]
      simp [quote, plain, ih]

theorem joins_singleQuote (cs : List Char) : Joins (Chars.singleQuote cs) := by
  intro before
  have opened : (within before).step '\'' =
      ((within (some (before.getD [] ++ ['\'']))).push .single, []) := by
    cases before <;> rfl
  have closed : ∀ source, run ((within (some source)).push .single) ['\''] =
      (within (some (source ++ ['\''])), []) := fun _ => rfl
  rw [Chars.singleQuote, List.cons_append, run_cons, opened, run_append, run_quoted, closed]
  simp

theorem joins_quote (cs : List Char) : Joins (Chars.quote cs) := by
  unfold Chars.quote
  by_cases empty : cs.isEmpty = true
  · simp only [empty, ↓reduceIte]
    exact joins_singleQuote []
  · by_cases bare : cs.all isBareChar = true
    · simp only [empty, bare, Bool.false_eq_true, ↓reduceIte]
      exact joins_bare (by simpa using empty) (List.all_eq_true.mp bare)
    · simp only [empty, bare, Bool.false_eq_true, ↓reduceIte]
      exact joins_singleQuote cs

/-- What stands below a line that ends is read as if nothing stood before it. -/
theorem scan_below {above : List Char} (settled : (run {} above).1.Settled) (below : List Char) :
    scan (above ++ '\n' :: below) = scan above ++ .lineEnd :: scan below := by
  have ends := (step_newline_iff (run {} above).1).mpr settled
  simp [scan, run_append, run_cons, ends]

/-! ## Blanks around a script -/

/-- Blanks that part words, or lines. -/
def Parting (lead : List Char) : Prop :=
  ∀ c ∈ lead, c = ' ' ∨ c = '\t' ∨ c = '\n'

instance (lead : List Char) : Decidable (Parting lead) :=
  List.decidableBAll _ lead

theorem run_parting {lead : List Char} (parting : Parting lead) : (run {} lead).1 = {} := by
  induction lead with
  | nil => rfl
  | cons c cs ih =>
    obtain ⟨first, rest⟩ := List.forall_mem_cons.mp parting
    have step : (step {} c).1 = {} := by
      rcases first with rfl | rfl | rfl <;> rfl
    rw [run_cons, step]
    exact ih rest

end Scan

end Shell

namespace LoginShell

open Shell Shell.Scan

/-- What a shell has read of a script at its end. -/
def behind (script : String) : Scan :=
  (Scan.run {} script.toList).1

/-- The last line of a script is its own: the line feed in front of it ends the line above, what is
above is read as it is by itself, and the words below start the shell. -/
structure Remains (shell : LoginShell) (command : String) : Prop where
  lineEnds : (behind (Text.trim command)).step '\n' =
    ({}, (behind (Text.trim command)).finish ++ [.lineEnd])
  lastLine : scan (shell.script command).toList =
    scan (Text.trim command).toList ++
      [.lineEnd, .word "exec".toList, .word (quote shell.path).toList, .word "-l".toList]
  shellWord : words? (quote shell.path) = some [shell.path]

theorem joins_literal (word : String) (filled : word.toList ≠ [])
    (bare : word.toList.all isBareChar = true) : Joins word.toList :=
  joins_bare filled (List.all_eq_true.mp bare)

theorem scan_exec (shell : LoginShell) :
    scan ("exec " ++ quote shell.path ++ " -l").toList =
      [.word "exec".toList, .word (quote shell.path).toList, .word "-l".toList] := by
  have verb := joins_literal "exec" (by decide) (by decide)
  have login := joins_literal "-l" (by decide) (by decide)
  have path : Joins (quote shell.path).toList := by simpa [quote] using joins_quote shell.path.toList
  have shape : ("exec " ++ quote shell.path ++ " -l").toList =
      "exec".toList ++ ' ' :: ((quote shell.path).toList ++ ' ' :: "-l".toList) := by simp
  have last := login.at_end
  unfold scan at last ⊢
  rw [shape, verb.before_separator, path.before_separator]
  simp only [List.cons_append, last]

theorem remains_of_settled {command : String} (shell : LoginShell)
    (settled : (behind (Text.trim command)).Settled) : shell.Remains command where
  lineEnds := (step_newline_iff _).mpr settled
  lastLine := by
    have shape : (shell.script command).toList = (Text.trim command).toList ++
        '\n' :: ("exec " ++ quote shell.path ++ " -l").toList := by
      simp [script]
    rw [shape, scan_below settled, scan_exec]
  shellWord := words?_quote shell.path

/-- What is not open behind a command is not open either where the blanks around it are gone. -/
theorem closed_of_trimmed {command : String} (closed : ¬ (behind command).Open)
    (parting : Parting (command.toList.takeWhile Text.isBlank)) :
    ¬ (behind (Text.trim command)).Open := by
  intro opened
  obtain ⟨trail, parts, blank⟩ := Text.Chars.trim_parts command.toList
  refine closed ?_
  unfold behind at opened ⊢
  rw [parts, run_append, run_append, run_parting parting, ← Text.toList_trim]
  dsimp only
  exact run_blank blank opened

/-- **The login shell that is left behind.** The line feed below a command ends a line, and the words
behind it start the login shell, just where the command as it is typed has left nothing open before
it. What a command by itself has closed stays closed: there only a backslash at the very end or a
here-document that is to come can take the last line. -/
theorem login_shell_remains_iff (shell : LoginShell) (command : String) :
    (shell.Remains command ↔ (behind (Text.trim command)).Settled) ∧
      (¬ (behind command).Open → Parting (command.toList.takeWhile Text.isBlank) →
        (shell.Remains command ↔ (behind (Text.trim command)).escaped = false ∧
          (behind (Text.trim command)).ground.Undue)) ∧
      ((behind (Text.trim command)).escaped = true →
        (Text.trim command).toList.getLast? = some '\\') := by
  have settles : shell.Remains command ↔ (behind (Text.trim command)).Settled :=
    ⟨fun remains => (step_newline_iff _).mp remains.lineEnds, remains_of_settled shell⟩
  refine ⟨settles, ?_, ?_⟩
  · intro closed parting
    have stillClosed := closed_of_trimmed closed parting
    rw [settles]
    exact ⟨fun settled => ⟨settled.unescaped, settled.undue⟩,
      fun ⟨unescaped, undue⟩ => ⟨stillClosed, unescaped, undue⟩⟩
  · intro escaped
    unfold behind at escaped
    exact ends_in_backslash escaped

/-- A comment and an ampersand at the end of a command do not take the last line. -/
theorem commented_login_shell_remains_iff :
    ¬ (behind "\tmake $(target) # all of it &\n").Open ∧
      Parting ("\tmake $(target) # all of it &\n".toList.takeWhile Text.isBlank) ∧
      (⟨"/my shell"⟩ : LoginShell).Remains "\tmake $(target) # all of it &\n" ∧
      (behind (Text.trim "echo a\\ ")).escaped = true ∧
      (Text.trim "echo a\\ ").toList.getLast? = some '\\' := by
  have closed : ¬ (behind "\tmake $(target) # all of it &\n").Open := by decide +kernel
  have parting : Parting ("\tmake $(target) # all of it &\n".toList.takeWhile Text.isBlank) := by
    decide +kernel
  have unhidden : (behind (Text.trim "\tmake $(target) # all of it &\n")).escaped = false ∧
      (behind (Text.trim "\tmake $(target) # all of it &\n")).ground.Undue := by decide +kernel
  have escaped : (behind (Text.trim "echo a\\ ")).escaped = true := by decide +kernel
  obtain ⟨-, exact_of_closed, -⟩ :=
    login_shell_remains_iff ⟨"/my shell"⟩ "\tmake $(target) # all of it &\n"
  obtain ⟨-, -, backslash⟩ := login_shell_remains_iff ⟨"sh"⟩ "echo a\\ "
  exact ⟨closed, parting, (exact_of_closed closed parting).mpr unhidden, escaped, backslash escaped⟩

/-- Trimming takes a blank from behind the backslash that it belongs to, and the backslash then takes
the line feed. -/
theorem escaped_blank_takes_login_shell :
    (¬ (behind "echo a\\ ").Open ∧ (behind "echo a\\ ").escaped = false ∧
        (behind "echo a\\ ").ground.Undue) ∧
      ¬ (⟨"sh"⟩ : LoginShell).Remains "echo a\\ " ∧
      scan ((⟨"sh"⟩ : LoginShell).script "echo a\\ ").toList =
        [.word "echo".toList, .word "aexec".toList, .word "sh".toList, .word "-l".toList] := by
  refine ⟨?_, ?_, ?_⟩
  · decide +kernel
  · intro remains
    have last := remains.lastLine
    revert last
    decide +kernel
  · decide +kernel

end LoginShell

end Worktop

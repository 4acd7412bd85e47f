import Worktop.Shell.Login
import Worktop.Shell.Word

/-! # Launch texts as a shell reads them

A shell reads a line as words if nothing in it but quotes and blanks is more than itself
(`Worktop.Shell.words?`). Quoting gives texts that are read as part of a word whatever is around
them (`Worktop.Shell.Spells`), so a launch text is read as exactly the words it was made of
(`Worktop.LoginShell.launchText_words`), and no text in it can break out of its word.
-/

namespace Worktop

namespace Shell

/-! ## Reading a line -/

/-- Characters that stand between words. -/
def isSeparator (c : Char) : Bool :=
  c = ' ' || c = '\t'

/-- Characters that outside quotes begin or end more than a word: operators, expansions, patterns,
comments and the end of the line. -/
def isActive (c : Char) : Bool :=
  ['|', '&', ';', '<', '>', '(', ')', '$', '`', '"', '*', '?', '[', ']', '#', '~', '\x7b', '\x7d',
    '!', '\n'].contains c

mutual

/-- The words of the rest of a line, where `word` is what was read of the current word, if one has
begun. There are none if an active character is met. -/
def wordsFrom (word : Option (List Char)) : List Char → Option (List (List Char))
  | [] => some word.toList
  | c :: cs =>
    if c = '\'' then quotedFrom (word.getD []) cs
    else if c = '\\' then escapedFrom (word.getD []) cs
    else if isSeparator c then (wordsFrom none cs).map (word.toList ++ ·)
    else if isActive c then none
    else wordsFrom (some (word.getD [] ++ [c])) cs

/-- The words of the rest of a line behind a backslash, which takes the next character as it is. -/
def escapedFrom (word : List Char) : List Char → Option (List (List Char))
  | [] => none
  | c :: cs => wordsFrom (some (word ++ [c])) cs

/-- The words of the rest of a line inside single quotes, which must be closed. -/
def quotedFrom (word : List Char) : List Char → Option (List (List Char))
  | [] => none
  | c :: cs => if c = '\'' then wordsFrom (some word) cs else quotedFrom (word ++ [c]) cs

end

/-- The words of a line in which nothing but quotes and blanks is more than itself. -/
def words? (line : String) : Option (List String) :=
  (wordsFrom none line.toList).map (List.map String.ofList)

/-! ## Spellings -/

/-- A text that is read as part of a word, whatever is around it. -/
def Spells (text word : List Char) : Prop :=
  ∀ before rest,
    wordsFrom before (text ++ rest) = wordsFrom (some (before.getD [] ++ word)) rest

variable {text text' word word' : List Char}

theorem Spells.append (first : Spells text word) (second : Spells text' word') :
    Spells (text ++ text') (word ++ word') := by
  intro before rest
  rw [List.append_assoc, first, second, Option.getD_some, List.append_assoc]

theorem Spells.before_separator (spells : Spells text word) (rest : List Char) :
    wordsFrom none (text ++ ' ' :: rest) = (wordsFrom none rest).map (word :: ·) := by
  rw [spells]
  simp [wordsFrom, isSeparator]

theorem Spells.at_end (spells : Spells text word) : wordsFrom none text = some [word] := by
  have whole := spells none []
  rw [List.append_nil] at whole
  simp [whole, wordsFrom]

/-- A bare character means itself wherever it stands. -/
theorem plain_of_bare {c : Char} (bare : isBareChar c = true) :
    c ≠ '\'' ∧ c ≠ '\\' ∧ isSeparator c = false ∧ isActive c = false := by
  have special : ∀ d, d = '\'' ∨ d = '\\' ∨ isSeparator d = true ∨ isActive d = true →
      isBareChar d = false := by
    intro d kinds
    have active : ['|', '&', ';', '<', '>', '(', ')', '$', '`', '"', '*', '?', '[', ']', '#', '~',
        '\x7b', '\x7d', '!', '\n'].all (fun d => isBareChar d = false) = true := by decide
    rcases kinds with rfl | rfl | separates | acts
    · decide
    · decide
    · rcases (by simpa [isSeparator] using separates : d = ' ' ∨ d = '\t') with rfl | rfl
      · decide
      · decide
    · exact of_decide_eq_true (List.all_eq_true.mp active d (List.contains_iff_mem.mp acts))
  have plain : ¬ (c = '\'' ∨ c = '\\' ∨ isSeparator c = true ∨ isActive c = true) := by
    intro kinds
    rw [special c kinds] at bare
    cases bare
  simpa only [not_or, Bool.not_eq_true] using plain

theorem spells_char {c : Char} (bare : isBareChar c = true) : Spells [c] [c] := by
  obtain ⟨quote, escape, separator, active⟩ := plain_of_bare bare
  intro before rest
  simp [wordsFrom, quote, escape, separator, active]

/-- What holds of bare characters, and of two texts together, holds of bare texts. -/
theorem bare_induction {P : List Char → Prop} (char : ∀ c, isBareChar c = true → P [c])
    (append : ∀ first second, P first → P second → P (first ++ second)) (filled : text ≠ [])
    (bare : ∀ c ∈ text, isBareChar c = true) : P text := by
  induction text with
  | nil => exact absurd rfl filled
  | cons c cs ih =>
    have first : P [c] := char c (bare c List.mem_cons_self)
    cases cs with
    | nil => exact first
    | cons d ds =>
      have others :=
        ih (List.cons_ne_nil d ds) fun e member => bare e (List.mem_cons_of_mem c member)
      exact append [c] (d :: ds) first others

theorem spells_bare (filled : text ≠ []) (bare : ∀ c ∈ text, isBareChar c = true) :
    Spells text text :=
  bare_induction (P := fun text => Spells text text) (fun _ => spells_char)
    (fun _ _ => Spells.append) filled bare

/-- Inside single quotes everything means itself, and a single quote is had by leaving them. -/
theorem quotedFrom_escaped (cs word rest : List Char) :
    quotedFrom word
      (cs.flatMap (fun c => if c = '\'' then ['\'', '\\', '\'', '\''] else [c]) ++ '\'' :: rest) =
        wordsFrom (some (word ++ cs)) rest := by
  induction cs generalizing word with
  | nil => simp [quotedFrom]
  | cons c cs ih =>
    by_cases quote : c = '\''
    · simp [quote, quotedFrom, wordsFrom, escapedFrom, ih]
    · simp [quote, quotedFrom, ih]

theorem spells_singleQuote (cs : List Char) : Spells (Chars.singleQuote cs) cs := by
  intro before rest
  have opened : ∀ rest, wordsFrom before ('\'' :: rest) = quotedFrom (before.getD []) rest := by
    intro rest
    simp [wordsFrom]
  unfold Chars.singleQuote
  rw [List.cons_append, List.cons_append, List.append_assoc, opened]
  exact quotedFrom_escaped cs _ rest

theorem spells_quote (cs : List Char) : Spells (Chars.quote cs) cs := by
  unfold Chars.quote
  by_cases empty : cs.isEmpty = true
  · obtain rfl := List.isEmpty_iff.mp empty
    exact spells_singleQuote []
  · by_cases bare : cs.all isBareChar = true
    · simp only [empty, bare, Bool.false_eq_true, ↓reduceIte]
      exact spells_bare (by simpa using empty) (List.all_eq_true.mp bare)
    · simp only [empty, bare, Bool.false_eq_true, ↓reduceIte]
      exact spells_singleQuote cs

theorem bare_of_name {name : List Char} (named : isName name = true) :
    name ≠ [] ∧ ∀ c ∈ name, isBareChar c = true := by
  have bare_of_nameChar : ∀ c, isNameChar c = true → isBareChar c = true := by
    intro c member
    rcases Bool.or_eq_true_iff.mp member with alphanumeric | underscore
    · simp [isBareChar, alphanumeric]
    · rw [of_decide_eq_true underscore]
      decide
  cases name with
  | nil => cases named
  | cons first others =>
    obtain ⟨start, follow⟩ := Bool.and_eq_true_iff.mp named
    refine ⟨List.cons_ne_nil _ _, fun c member => bare_of_nameChar c ?_⟩
    rcases List.mem_cons.mp member with rfl | later
    · rcases Bool.or_eq_true_iff.mp start with letter | underscore
      · simp [isNameChar, Char.isAlphanum, letter]
      · simp [isNameChar, underscore]
    · exact List.all_eq_true.mp follow c later

/-- A setting of a variable is one word, whatever the value. -/
theorem spells_assignment {name : List Char} (named : isName name = true) (value : List Char) :
    Spells (name ++ '=' :: Chars.quote value) (name ++ '=' :: value) := by
  obtain ⟨filled, bare⟩ := bare_of_name named
  have equals : Spells ['='] ['='] := spells_char (by decide)
  exact (spells_bare filled bare).append (equals.append (spells_quote value))

theorem words?_quote (s : String) : words? (quote s) = some [s] := by
  have read := (spells_quote s.toList).at_end
  simp [words?, quote, read]

end Shell

namespace LoginShell

open Shell

/-- The words that settings in front of a command are read as. -/
theorem wordsFrom_assignments {env : Environment} (names : ∀ v ∈ env, isName v.1.toList = true)
    (rest : List Char) :
    wordsFrom none ((assignments env).toList ++ rest) =
      (wordsFrom none rest).map
        (env.map (fun v => (v.1 ++ "=" ++ v.2).toList) ++ ·) := by
  induction env with
  | nil => simp [assignments]
  | cons v others ih =>
    have first := spells_assignment (names v List.mem_cons_self) v.2.toList
    have shape : (assignments (v :: others)).toList ++ rest =
        (v.1.toList ++ '=' :: Chars.quote v.2.toList) ++
          ' ' :: ((assignments others).toList ++ rest) := by
      simp [assignments, quote]
    rw [shape, first.before_separator, ih fun w member => names w (List.mem_cons_of_mem v member)]
    simp [Function.comp_def]

theorem spells_literal (word : String) (filled : word.toList ≠ [])
    (bare : word.toList.all isBareChar = true) : Spells word.toList word.toList :=
  spells_bare filled (List.all_eq_true.mp bare)

/-- What a launch text ends with: the login shell and its script. -/
theorem wordsFrom_login (shell : LoginShell) (command : String) :
    wordsFrom none (quote shell.path ++ " -l -c " ++ singleQuote (shell.script command)).toList =
      some [shell.path.toList, "-l".toList, "-c".toList, (shell.script command).toList] := by
  have path := spells_quote shell.path.toList
  have login := spells_literal "-l" (by decide) (by decide)
  have run := spells_literal "-c" (by decide) (by decide)
  have script := spells_singleQuote (shell.script command).toList
  have shape : (quote shell.path ++ " -l -c " ++ singleQuote (shell.script command)).toList =
      Chars.quote shell.path.toList ++ ' ' :: ("-l".toList ++ ' ' :: ("-c".toList ++
        ' ' :: Chars.singleQuote (shell.script command).toList)) := by
    simp [quote, singleQuote]
  rw [shape, path.before_separator, login.before_separator, run.before_separator, script.at_end]
  rfl

/-- A launch text is read as settings, where the multiplexer cannot hand variables over, and then the
login shell with its script. -/
theorem words?_launchText (shell : LoginShell) (command : String) (caps : Mux.Capabilities)
    {env : Environment} (names : ∀ v ∈ env, isName v.1.toList = true) :
    words? (shell.launchText command caps env) =
      some (["exec"] ++
        (if !caps.paneEnv && !env.isEmpty then "env" :: env.map (fun v => v.1 ++ "=" ++ v.2)
          else []) ++
        [shell.path, "-l", "-c", Text.trim command ++ "\nexec " ++ quote shell.path ++ " -l"]) := by
  have verb := spells_literal "exec" (by decide) (by decide)
  have setter := spells_literal "env" (by decide) (by decide)
  have login := wordsFrom_login shell command
  by_cases inlined : (!caps.paneEnv && !env.isEmpty) = true
  · have shape : (shell.launchText command caps env).toList =
        "exec".toList ++ ' ' :: ("env".toList ++ ' ' :: ((assignments env).toList ++
          (quote shell.path ++ " -l -c " ++ singleQuote (shell.script command)).toList)) := by
      simp [launchText, inlined]
    unfold words?
    rw [shape, verb.before_separator, setter.before_separator, wordsFrom_assignments names, login]
    simp only [inlined, ↓reduceIte, Option.map_some, List.map_cons, List.map_append, List.map_map,
      List.map_nil, Function.comp_def, String.ofList_toList]
    rfl
  · have shape : (shell.launchText command caps env).toList = "exec".toList ++ ' ' ::
        (quote shell.path ++ " -l -c " ++ singleQuote (shell.script command)).toList := by
      simp [launchText, inlined]
    unfold words?
    rw [shape, verb.before_separator, login]
    simp only [inlined, Bool.false_eq_true, ↓reduceIte, Option.map_some, List.map_cons,
      List.map_nil, String.ofList_toList]
    rfl

/-- **Launch texts cannot be broken out of.** A shell reads a launch text without meeting anything
active, as the words it was made of: the settings that the multiplexer could not hand over, each
with the value as it was, and then the login shell with the script as its last word. The login
shell that the script ends with is read as one word again. -/
theorem launchText_words (shell : LoginShell) (command : String) (caps : Mux.Capabilities)
    {env : Environment} (names : ∀ v ∈ env, isName v.1.toList = true) :
    words? (shell.launchText command caps env) =
        some (["exec"] ++
          (if !caps.paneEnv && !env.isEmpty then "env" :: env.map (fun v => v.1 ++ "=" ++ v.2)
            else []) ++
          [shell.path, "-l", "-c",
            Text.trim command ++ "\nexec " ++ quote shell.path ++ " -l"]) ∧
      words? (quote shell.path) = some [shell.path] := by
  exact ⟨words?_launchText shell command caps names, words?_quote shell.path⟩

/-- A value and a shell with quotes in them, and a command that would end its line. -/
theorem quarrelsome_launchText_words :
    (∀ v ∈ [("BRANCH", "it's"), ("EMPTY", "")], isName v.1.toList = true) ∧
      words? (launchText ⟨"/my shell"⟩ " say 'it' & # x\n" ⟨false, true, true⟩
          [("BRANCH", "it's"), ("EMPTY", "")]) =
        some ["exec", "env", "BRANCH=it's", "EMPTY=", "/my shell", "-l", "-c",
          "say 'it' & # x\nexec '/my shell' -l"] ∧
      words? (quote "/my shell") = some ["/my shell"] := by
  have names : ∀ v ∈ [("BRANCH", "it's"), ("EMPTY", "")], isName v.1.toList = true := by decide
  obtain ⟨launched, path⟩ :=
    launchText_words ⟨"/my shell"⟩ " say 'it' & # x\n" ⟨false, true, true⟩ names
  exact ⟨names, launched.trans (by decide +kernel), path⟩

end LoginShell

end Worktop

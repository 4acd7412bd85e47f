import Worktop.Lifecycle.Basic
import Worktop.Proofs.Answers
import Worktop.Proofs.FileSystem

/-! # Making a workspace in a world

What each step of an addition makes of a world, where it succeeds and where it fails:
`Worktop.Repository.create_leads` for the branch with its worktree,
`Worktop.Multiplexer.createWindow_leads` and `Worktop.Multiplexer.splitPane_leads` for the window
and its panes, and `Worktop.Hook.runFrom_leads` for the hooks, which leave all but files alone
(`Worktop.LeftByHooks`).
-/

namespace Worktop

open Act World

variable {course : Nat → Turn} {w : World} {fs : FileSystem}

/-! ## The branch and its worktree -/

namespace World

theorem room?_some {path : String} {place : List String} (room : w.room? fs path = some place) :
    fs.locate path = .ok place ∧ fs.node? place = none ∧
      ∀ reg ∈ w.registrations, reg.path ≠ path := by
  unfold room? at room
  split at room
  · cases room
  · rename_i located
    split at room
    · rename_i free
      cases room
      rw [Bool.and_eq_true, Option.isNone_iff_eq_none, List.all_eq_true] at free
      exact ⟨located, free.1, fun reg member => of_decide_eq_true (free.2 reg member)⟩
    · cases room

/-- A branch that is not there is made with its worktree, or the making of the worktree fails, and
at most the branch is left of it. -/
theorem addWorktree_cases {branch : String} (absent : branch ∉ w.branches) (turn : Turn)
    (path : String) :
    (∃ place, w.room? fs path = some place ∧ w.addWorktree turn fs branch path =
      (.done, w.withWorktree branch path, fs.put place .directory)) ∨
    ∃ (answer : Answer) (w' : World),
      w.addWorktree turn fs branch path = (answer.silenced, w', fs) ∧
        answer.succeeded = false ∧ (w' = w ∨ w' = w.withBranch branch) := by
  have left : ∀ half : Bool, (if half then w.withBranch branch else w) = w ∨
      (if half then w.withBranch branch else w) = w.withBranch branch := by
    intro half
    cases half with
    | true => exact .inr rfl
    | false => exact .inl rfl
  unfold addWorktree
  rw [if_neg absent]
  cases fails : turn.failure? with
  | some failure => exact .inr ⟨failure, _, rfl, Turn.not_succeeded fails, left turn.half⟩
  | none =>
    cases room : w.room? fs path with
    | some place => exact .inl ⟨place, rfl, rfl⟩
    | none => exact .inr ⟨.failed _, _, rfl, rfl, left turn.half⟩

end World

/-- A silenced answer is not taken for a complaint of a branch that exists. -/
theorem addError_silenced {answer : Answer} {output : Output} (given : answer.silenced = .ok output)
    (branch path name : String) :
    Repository.addError branch path output.complaint ≠ .branchExists name := by
  have quiet : (Text.occurs "a branch named" output.complaint &&
      Text.occurs "already exists" output.complaint) = false := by
    cases answer with
    | error e => cases given
    | ok output' =>
      unfold Answer.silenced at given
      dsimp only at given
      split at given
      · cases given
        change (Text.occurs "a branch named" (Text.trim "") &&
          Text.occurs "already exists" (Text.trim "")) = false
        decide
      · rename_i quiet
        cases given
        exact Bool.eq_false_iff.mpr quiet
  unfold Repository.addError
  rw [quiet]
  simp only [Bool.false_eq_true, ↓reduceIte]
  split
  · exact fun same => nomatch same
  · exact fun same => nomatch same

/-- What may come of a git command that may fail. -/
theorem Worktree.exec_leads {c : Command} {post : Except Error Output → World → FileSystem → Prop}
    (holds : ∀ turn answer w' fs', w.respond turn fs (.ofCommand c) = (answer, w', fs') →
      (∀ output, answer = .ok output → post (.ok output) w' fs') ∧
        (answer.succeeded = false → ∀ e, post (.error (.spawn e)) w' fs')) :
    Leads (exec c : Result Scene Output).run course w fs post := by
  have executed : Leads (Act.exec c : Act Scene Reply) course w fs fun reply w' fs' =>
      (∀ output, reply = .ok output → post (.ok output) w' fs') ∧
        ∀ e, reply = .error e → post (.error (.spawn e)) w' fs' := by
    apply leads_exec
    intro n
    cases responds : w.respond (course n) fs (.ofCommand c) with
    | mk answer after =>
      obtain ⟨done, failed⟩ := holds (course n) answer after.1 after.2 responds
      cases answer with
      | ok output => exact ⟨fun _ same => by cases same; exact done output rfl, nofun⟩
      | error reason => exact ⟨nofun, fun e _ => failed rfl e⟩
  unfold exec
  apply executed.lift_bind
  intro reply w' fs' given
  cases reply with
  | ok output => exact leads_ok (given.1 output rfl)
  | error e => exact leads_error (given.2 e rfl)

namespace Repository

variable (r : Repository) {branch : String}

/-- Where the base of the worktrees is made and nothing stands at the path of a worktree, a place
there. -/
def Plot (fs : FileSystem) (branch : String) (place : List String) : Prop :=
  (fs.makeDirectories r.base).2.locate (r.worktreePath branch) = .ok place ∧
    (fs.makeDirectories r.base).2.node? place = none

/-- What may come of `git worktree add`. -/
theorem add_leads (absent : branch ∉ w.branches) (path : String) :
    Leads (Worktree.exec (r.git ["worktree", "add", "-b", branch, path]) :
      Worktree.Result Scene Output).run course w fs fun result w' fs' =>
        (∃ output place, result = .ok output ∧ output.success = true ∧
          w.room? fs path = some place ∧ w' = w.withWorktree branch path ∧
          fs' = fs.put place .directory) ∨
        fs' = fs ∧ (w' = w ∨ w' = w.withBranch branch) ∧
          ((∃ e, result = .error (.spawn e)) ∨
            ∃ output, result = .ok output ∧ output.success = false ∧
              ∀ name, addError branch path output.complaint ≠ .branchExists name) := by
  apply Worktree.exec_leads
  intro turn answer w' fs' responds
  have asks : w.respond turn fs (.ofCommand (r.git ["worktree", "add", "-b", branch, path])) =
      w.addWorktree turn fs branch path := rfl
  rw [asks] at responds
  rcases addWorktree_cases absent turn path with
    ⟨place, room, added⟩ | ⟨given, left, failed, fails, half⟩
  · cases added.symm.trans responds
    refine ⟨fun output same => ?_, fun failed => nomatch failed⟩
    cases same
    exact .inl ⟨_, place, rfl, rfl, room, rfl, rfl⟩
  · cases failed.symm.trans responds
    constructor
    · intro output same
      have unsuccessful : output.success = false := by
        have silenced := (Answer.succeeded_silenced given).trans fails
        rwa [same] at silenced
      have other := addError_silenced same branch path
      exact .inr ⟨rfl, half, .inr ⟨output, rfl, unsuccessful, other⟩⟩
    · intro _ e
      exact .inr ⟨rfl, half, .inl ⟨e, rfl⟩⟩

/-- What may come of the making of a worktree. -/
theorem create_leads (sound : w.Sound) (absent : branch ∉ w.branches) :
    Leads (r.create branch : Worktree.Result Scene String).run course w fs fun result w' fs' =>
      match result with
      | .ok path => path = r.worktreePath branch ∧
        w' = w.withWorktree branch path ∧ (∀ reg ∈ w.registrations, reg.path ≠ path) ∧
        ∃ place, r.Plot fs branch place ∧ fs' = (fs.makeDirectories r.base).2.put place .directory
      | .error e => (fs' = fs ∨ fs' = (fs.makeDirectories r.base).2) ∧
        (w' = w ∨ w' = w.withBranch branch ∧ ∀ name, e ≠ .branchExists name) := by
  unfold create
  refine (r.branchExists_tells branch).andThen ?_
  rw [decide_eq_false absent]
  dsimp only
  rw [if_neg Bool.false_ne_true]
  refine (tells_pathExists _).lift_bind ?_
  split
  · exact (r.list_tells sound).andThen (leads_error ⟨.inl rfl, .inl rfl⟩)
  refine (ends_makeDirectories r.base).lift_bind ?_
  cases (fs.makeDirectories r.base).1 with
  | error e => exact leads_error ⟨.inr rfl, .inl rfl⟩
  | ok _ =>
    refine (r.add_leads absent (r.worktreePath branch)).andThen ?_ ?_
    · intro output w' fs' ended
      rcases ended with ⟨_, place, same, success, room, rfl, rfl⟩ | ⟨rfl, left, failed⟩
      · cases same
        obtain ⟨located, empty, apart⟩ := room?_some room
        rw [if_pos success]
        exact leads_ok ⟨rfl, rfl, apart, place, ⟨located, empty⟩, rfl⟩
      · rcases failed with ⟨e, same⟩ | ⟨_, same, failed, other⟩
        · cases same
        · cases same
          rw [failed, if_neg Bool.false_ne_true]
          exact leads_error ⟨.inr rfl, left.imp_right fun half => ⟨half, other⟩⟩
    · intro e w' fs' ended
      rcases ended with ⟨_, _, same, _⟩ | ⟨rfl, left, failed⟩
      · cases same
      · refine ⟨.inr rfl, left.imp_right fun half => ⟨half, fun name same => ?_⟩⟩
        rcases failed with ⟨_, given⟩ | ⟨_, given, _⟩
        · cases given
          cases same
        · cases given

end Repository

/-! ## Windows and panes -/

namespace World

theorem newWindow_cases (w : World) (turn : Turn) (name : String) :
    (w.freshWindow turn.window = true ∧ w.freshPane turn.pane = true ∧ w.newWindow turn name =
      (.done (turn.window ++ " " ++ turn.pane ++ "\n"),
        w.withWindow { id := turn.window, name, panes := [turn.pane] })) ∨
    ∃ answer : Answer, w.newWindow turn name = (answer, w) ∧ answer.succeeded = false := by
  unfold newWindow
  cases fails : turn.failure? with
  | some failure => exact .inr ⟨failure, rfl, Turn.not_succeeded fails⟩
  | none =>
    by_cases fresh : (w.freshWindow turn.window && w.freshPane turn.pane) = true
    · obtain ⟨window, pane⟩ := Bool.and_eq_true_iff.mp fresh
      exact .inl ⟨window, pane, if_pos fresh⟩
    · exact .inr ⟨_, if_neg fresh, Answer.succeeded_failed _⟩

theorem splitWindow_cases (w : World) (turn : Turn) (pane : String) :
    (w.freshPane turn.pane = true ∧
      w.splitWindow turn pane = (.done (turn.pane ++ "\n"), w.withPane pane turn.pane)) ∨
    ∃ answer : Answer, w.splitWindow turn pane = (answer, w) ∧ answer.succeeded = false := by
  unfold splitWindow
  cases fails : turn.failure? with
  | some failure => exact .inr ⟨failure, rfl, Turn.not_succeeded fails⟩
  | none =>
    by_cases fresh : (w.windows.any (pane ∈ ·.panes) && w.freshPane turn.pane) = true
    · exact .inl ⟨(Bool.and_eq_true_iff.mp fresh).2, if_pos fresh⟩
    · exact .inr ⟨_, if_neg fresh, Answer.succeeded_failed _⟩

theorem isId_of_freshWindow {id : String} (fresh : w.freshWindow id = true) :
    isId '@' id = true :=
  (Bool.and_eq_true_iff.mp fresh).1

theorem ne_of_freshWindow {id : String} (fresh : w.freshWindow id = true) :
    ∀ other ∈ w.windows, other.id ≠ id := by
  intro other present
  have unused := List.all_eq_true.mp (Bool.and_eq_true_iff.mp fresh).2
  exact of_decide_eq_true (unused other present)

theorem isId_of_freshPane {id : String} (fresh : w.freshPane id = true) : isId '%' id = true :=
  (Bool.and_eq_true_iff.mp fresh).1

theorem not_mem_of_freshPane {id : String} (fresh : w.freshPane id = true) :
    ∀ window ∈ w.windows, id ∉ window.panes := by
  intro window present
  have unused := List.all_eq_true.mp (Bool.and_eq_true_iff.mp fresh).2
  exact of_decide_eq_true (unused window present)

theorem tidy_of_isId {mark : Char} {id : String} (isId : World.isId mark id = true)
    (front : String) :
    ∀ c, (front ++ id).toList.getLast? = some c → Text.isBlank c = false := by
  intro c last
  have filled : id.toList ≠ [] := by
    intro empty
    have first := head_of_isId isId
    rw [empty] at first
    cases first
  rw [String.toList_append, List.getLast?_append, List.getLast?_eq_some_getLast filled,
    Option.some_or] at last
  cases last
  exact noBlank_of_isId isId _ (List.getLast_mem _)

theorem front_of_isId {mark : Char} {id : String} (isId : World.isId mark id = true)
    (back : String) :
    ∀ c, (id ++ back).toList.head? = some c → Text.isBlank c = false := by
  intro c first
  rw [String.toList_append, List.head?_append, head_of_isId isId, Option.some_or] at first
  cases first
  exact noBlank_of_isId isId _ (List.mem_of_head? (head_of_isId isId))

/-- The ids of a new window and its pane are read back as they were printed. -/
theorem windowOfOutput?_printed {id pane : String} (window : isId '@' id = true)
    (inside : isId '%' pane = true) (name : String) :
    Mux.Tmux.windowOfOutput? name (Text.trim (id ++ " " ++ pane ++ "\n")) =
      some { name, id, pane } := by
  have front : ∀ c, (id ++ " " ++ pane).toList.head? = some c → Text.isBlank c = false := by
    rw [String.append_assoc]
    exact front_of_isId window _
  have blank : ' ' ∉ id.toList := by
    intro member
    exact absurd (noBlank_of_isId window _ member) (by decide)
  have split : Text.splitFirst? ' ' (id ++ " " ++ pane) = some (id, pane) :=
    Text.splitFirst?_append blank pane
  rw [Text.trim_line front (tidy_of_isId inside _), Mux.Tmux.windowOfOutput?, split]
  simp [head_of_isId window, head_of_isId inside]

end World

namespace Mux.Tmux

variable (socket : Option String)

theorem createWindow_leads (sound : w.Sound) {name : String}
    (closed : name ∉ w.windows.map (·.name)) (directory : String) (env : Environment) :
    Leads (createWindow socket name directory env : Result Scene Window).run course w fs
      fun result w' fs' => fs' = fs ∧ match result with
        | .ok window => window.name = name ∧ w.freshWindow window.id = true ∧
          w.freshPane window.pane = true ∧
          w' = w.withWindow { id := window.id, name, panes := [window.pane] }
        | .error _ => w' = w := by
  have none_open : (w.windows.filter (·.name = name)).map (·.id) = [] := by
    rw [List.map_eq_nil_iff, List.filter_eq_nil_iff]
    intro window present named
    exact closed (List.mem_map.mpr ⟨window, present, of_decide_eq_true named⟩)
  unfold createWindow
  refine (windowIds_tells socket sound name).andThen ?_
  rw [none_open]
  have asks : ∀ turn, w.respond turn fs (.ofCommand (command socket
      (["new-window", "-P", "-F", "#\x7bwindow_id\x7d #\x7bpane_id\x7d", "-n", name,
        "-c", directory] ++ envArgs env))) =
          ((w.newWindow turn name).1, (w.newWindow turn name).2, fs) := by
    intro turn
    cases socket <;> rfl
  have opens : Leads (run "new-window" (command socket
      (["new-window", "-P", "-F", "#\x7bwindow_id\x7d #\x7bpane_id\x7d", "-n", name,
        "-c", directory] ++ envArgs env)) : Result Scene Output).run course w fs
      fun result w' fs' => fs' = fs ∧ match result with
        | .ok output => ∃ id pane, w.freshWindow id = true ∧ w.freshPane pane = true ∧
          output.stdout = id ++ " " ++ pane ++ "\n" ∧
          w' = w.withWindow { id, name, panes := [pane] }
        | .error _ => w' = w := by
    refine run_either (fun turn => ?_) fun e => ⟨rfl, rfl⟩
    rw [asks]
    rcases w.newWindow_cases turn name with ⟨window, pane, opened⟩ | ⟨given, failed, fails⟩
    · rw [opened]
      exact .inl ⟨_, _, fs, rfl, rfl, turn.window, turn.pane, window, pane, rfl, rfl⟩
    · rw [failed]
      exact .inr ⟨given, rfl, fails⟩
  refine opens.andThen (fun output w' fs' given => ?_) fun e w' fs' given => given
  obtain ⟨rfl, id, pane, window, inside, printed, rfl⟩ := given
  have read := windowOfOutput?_printed (isId_of_freshWindow window) (isId_of_freshPane inside) name
  dsimp only
  rw [printed, read]
  exact leads_ok ⟨rfl, rfl, window, inside, rfl⟩

theorem splitPane_leads (pane : String) (direction : Direction) (directory : String)
    (env : Environment) :
    Leads (splitPane socket pane direction directory env : Result Scene String).run course w fs
      fun result w' fs' => fs' = fs ∧ match result with
        | .ok new => w.freshPane new = true ∧ w' = w.withPane pane new
        | .error _ => w' = w := by
  have splits : ∀ flag, Leads (run "split-window" (command socket
      (["split-window", flag, "-t", pane, "-c", directory, "-P", "-F", "#\x7bpane_id\x7d"]
        ++ envArgs env)) : Result Scene Output).run course w fs
      fun result w' fs' => fs' = fs ∧ match result with
        | .ok output => ∃ new, w.freshPane new = true ∧ output.stdout = new ++ "\n" ∧
          w' = w.withPane pane new
        | .error _ => w' = w := by
    intro flag
    have asks : ∀ turn, w.respond turn fs (.ofCommand (command socket
        (["split-window", flag, "-t", pane, "-c", directory, "-P", "-F", "#\x7bpane_id\x7d"]
          ++ envArgs env))) = ((w.splitWindow turn pane).1, (w.splitWindow turn pane).2, fs) := by
      intro turn
      cases socket <;> rfl
    refine run_either (fun turn => ?_) fun e => ⟨rfl, rfl⟩
    rw [asks]
    rcases w.splitWindow_cases turn pane with ⟨fresh, split⟩ | ⟨given, failed, fails⟩
    · rw [split]
      exact .inl ⟨_, _, fs, rfl, rfl, turn.pane, fresh, rfl, rfl⟩
    · rw [failed]
      exact .inr ⟨given, rfl, fails⟩
  unfold splitPane
  dsimp only
  refine (splits _).andThen (fun output w' fs' given => ?_) fun e w' fs' given => given
  obtain ⟨rfl, new, fresh, printed, rfl⟩ := given
  have isId := isId_of_freshPane fresh
  have front : ∀ c, new.toList.head? = some c → Text.isBlank c = false := by
    intro c first
    exact noBlank_of_isId isId c (List.mem_of_head? first)
  have tidy : ∀ c, new.toList.getLast? = some c → Text.isBlank c = false := by
    intro c last
    exact noBlank_of_isId isId c (List.mem_of_getLast? last)
  rw [printed, Text.trim_line front tidy, if_pos (head_of_isId isId)]
  exact leads_ok ⟨rfl, fresh, rfl⟩

end Mux.Tmux

namespace Multiplexer

variable {m : Multiplexer}

/-- What may come of the making of a window. -/
theorem createWindow_leads (tmux : m.kind = .tmux) (sound : w.Sound) {name : String}
    (closed : name ∉ w.windows.map (·.name)) (directory : String) (env : Environment) :
    Leads (m.createWindow name directory env : Mux.Result Scene Mux.Window).run course w fs
      fun result w' fs' => fs' = fs ∧ match result with
        | .ok window => window.name = name ∧ w.freshWindow window.id = true ∧
          w.freshPane window.pane = true ∧
          w' = w.withWindow { id := window.id, name, panes := [window.pane] }
        | .error _ => w' = w := by
  rw [eq_of_tmux tmux]
  exact Mux.Tmux.createWindow_leads m.socket sound closed directory env

/-- What may come of a split. -/
theorem splitPane_leads (tmux : m.kind = .tmux) (pane : String) (direction : Mux.Direction)
    (directory : String) (env : Environment) :
    Leads (m.splitPane pane direction directory env : Mux.Result Scene String).run course w fs
      fun result w' fs' => fs' = fs ∧ match result with
        | .ok new => w.freshPane new = true ∧ w' = w.withPane pane new
        | .error _ => w' = w := by
  rw [eq_of_tmux tmux]
  exact Mux.Tmux.splitPane_leads m.socket pane direction directory env

end Multiplexer

/-! ## Hooks -/

/-- No hook of a course touches what stands at a place. -/
def Spared (course : Nat → Turn) (place : List String) : Prop :=
  ∀ n fs, ((course n).change fs).node? place = fs.node? place

/-- How files may have been changed by the hooks of a course: relative paths start where they did,
worktrees have their directories if they had them, and what no hook touches is as it was. -/
structure LeftByHooks (course : Nat → Turn) (regs : List Registration) (before after : FileSystem) :
    Prop where
  here : after.here = before.here
  worktrees : ∀ reg ∈ regs, after.pathExists reg.path = before.pathExists reg.path
  spared : ∀ place, Spared course place → after.node? place = before.node? place

namespace LeftByHooks

variable {regs : List Registration} {first second third : FileSystem}

theorem refl (regs : List Registration) (fs : FileSystem) : LeftByHooks course regs fs fs :=
  ⟨rfl, fun _ _ => rfl, fun _ _ => rfl⟩

theorem trans (one : LeftByHooks course regs first second)
    (other : LeftByHooks course regs second third) : LeftByHooks course regs first third where
  here := other.here.trans one.here
  worktrees := fun reg member => (other.worktrees reg member).trans (one.worktrees reg member)
  spared := fun place spares => (other.spared place spares).trans (one.spared place spares)

theorem hooked (w : World) (fs : FileSystem) (n : Nat) :
    LeftByHooks course w.registrations fs (w.hooked (course n) fs) := by
  unfold World.hooked
  dsimp only
  split
  · rename_i untouched
    constructor
    · rfl
    · intro reg member
      exact eq_of_beq (List.all_eq_true.mp untouched reg member)
    · intro place spares
      exact spares n fs
  · exact refl _ _

end LeftByHooks

namespace Hook

/-- Hooks leave the world as it is. -/
theorem runFrom_leads (directory : String) (env : Environment) (index : Nat) (hooks : List String) :
    Leads (runFrom directory env index hooks : ExceptT Error (Act Scene) _).run course w fs
      fun _ w' fs' => w' = w ∧ LeftByHooks course w.registrations fs fs' := by
  induction hooks generalizing index fs with
  | nil => exact leads_ok ⟨rfl, .refl _ _⟩
  | cons hook rest ih =>
    have executed : Leads (Act.exec (command hook directory env) : Act Scene Reply) course w fs
        fun _ w' fs' => w' = w ∧ LeftByHooks course w.registrations fs fs' :=
      leads_exec fun n => ⟨rfl, .hooked w fs n⟩
    unfold runFrom
    apply executed.lift_bind
    intro reply w' fs' given
    obtain ⟨rfl, left⟩ := given
    cases reply with
    | error e => exact leads_error ⟨rfl, left⟩
    | ok output =>
      dsimp only
      split
      · apply (ih (index + 1)).andThen
        · intro steps w' fs' given
          exact leads_ok ⟨given.1, left.trans given.2⟩
        · intro e w' fs' given
          exact ⟨given.1, left.trans given.2⟩
      · exact leads_error ⟨rfl, left⟩

end Hook

end Worktop

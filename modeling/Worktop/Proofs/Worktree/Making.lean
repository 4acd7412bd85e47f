import Mathlib.Data.List.Basic
import Worktop.Proofs.Commands
import Worktop.Proofs.InTurn

/-! # How a worktree is made

The making of a worktree goes one of five ways, by what git answers and what the file system has
(`Worktop.Repository.Course`). So whatever there is, is neither adopted nor overwritten: main
statement `Worktop.Repository.create_never_adopts_iff`.
-/

namespace Worktop.Repository

open Act

variable {ω : Type} {host : Host ω} {s : Session ω} {r : Repository} {branch : String}

/-- The command that looks for a branch. -/
abbrev showRef (r : Repository) (branch : String) : Command :=
  r.git ["show-ref", "--quiet", "--verify", "refs/heads/" ++ branch]

/-- The command that makes a branch and its worktree. -/
abbrev adding (r : Repository) (branch : String) : Command :=
  r.git ["worktree", "add", "-b", branch, r.worktreePath branch]

/-- What the last command of the making of a worktree comes to. -/
def addedOf (r : Repository) (branch : String) : Reply → Except Worktree.Error String
  | .error e => .error (.spawn e)
  | .ok output =>
    if output.success then .ok (r.worktreePath branch)
    else .error (addError branch (r.worktreePath branch) output.complaint)

/-- A session after git was asked for the branch. -/
abbrev queried (r : Repository) (branch : String) (host : Host ω) (s : Session ω) : Session ω :=
  s.asked host [r.showRef branch]

/-- A session after it was seen whether something stands where the worktree goes. -/
def looked (r : Repository) (branch : String) (s : Session ω) : Session ω :=
  s.note (.looked (r.worktreePath branch) (s.files.pathExists (r.worktreePath branch)))

/-- A session after the directory of the worktrees was made, or could not be. -/
def based (r : Repository) (s : Session ω) : Session ω :=
  { s with files := (s.files.makeDirectories r.base).2 }.note
    (.madeDirectories r.base (s.files.makeDirectories r.base).1.isOk)

theorem journal_queried {reply : Reply}
    (shown : ((exec (r.showRef branch)).perform host s).1 = reply) :
    (r.queried branch host s).journal = .ran (r.showRef branch) reply :: s.journal := by
  rw [← shown]
  rfl

theorem journal_looked {reply : Reply} {found : Bool}
    (shown : ((exec (r.showRef branch)).perform host s).1 = reply)
    (seen : (r.queried branch host s).files.pathExists (r.worktreePath branch) = found) :
    (r.looked branch (r.queried branch host s)).journal =
      .looked (r.worktreePath branch) found :: .ran (r.showRef branch) reply :: s.journal := by
  rw [← seen, ← journal_queried shown]
  rfl

theorem journal_based {reply : Reply} {found : Bool} {made : Except SystemError Unit}
    (shown : ((exec (r.showRef branch)).perform host s).1 = reply)
    (seen : (r.queried branch host s).files.pathExists (r.worktreePath branch) = found)
    (done : ((r.queried branch host s).files.makeDirectories r.base).1 = made) :
    (r.based (r.looked branch (r.queried branch host s))).journal =
      .madeDirectories r.base made.isOk :: .looked (r.worktreePath branch) found ::
        .ran (r.showRef branch) reply :: s.journal := by
  rw [← done, ← journal_looked shown seen]
  rfl

/-- What is told where something stands in the way: that it does, unless git cannot say what. -/
def conflictOf (r : Repository) (branch : String) (reply : Reply) : Except Worktree.Error String :=
  (r.entriesOfReply reply).bind fun _ => .error (.pathConflict (r.worktreePath branch))

/-- All that the making of a worktree can come to: what is told, and the session after it. -/
inductive Course (r : Repository) (branch : String) (host : Host ω) (s : Session ω) :
    Except Worktree.Error String × Session ω → Prop
  | unasked {e : SpawnError}
      (shown : ((exec (r.showRef branch)).perform host s).1 = .error e) :
      Course r branch host s (.error (.spawn e), r.queried branch host s)
  | shown {output : Output}
      (shown : ((exec (r.showRef branch)).perform host s).1 = .ok output)
      (success : output.success = true) :
      Course r branch host s (.error (.branchExists branch), r.queried branch host s)
  | taken {output : Output}
      (shown : ((exec (r.showRef branch)).perform host s).1 = .ok output)
      (absent : output.success = false)
      (there : (r.queried branch host s).files.pathExists (r.worktreePath branch) = true) :
      Course r branch host s
        (r.conflictOf branch ((exec (r.git ["worktree", "list", "--porcelain"])).perform host
            (r.looked branch (r.queried branch host s))).1,
          (r.looked branch (r.queried branch host s)).asked host
            [r.git ["worktree", "list", "--porcelain"]])
  | noBase {output : Output} {e : SystemError}
      (shown : ((exec (r.showRef branch)).perform host s).1 = .ok output)
      (absent : output.success = false)
      (free : (r.queried branch host s).files.pathExists (r.worktreePath branch) = false)
      (failed : ((r.queried branch host s).files.makeDirectories r.base).1 = .error e) :
      Course r branch host s (.error (.io e), r.based (r.looked branch (r.queried branch host s)))
  | asked {output : Output}
      (shown : ((exec (r.showRef branch)).perform host s).1 = .ok output)
      (absent : output.success = false)
      (free : (r.queried branch host s).files.pathExists (r.worktreePath branch) = false)
      (made : ((r.queried branch host s).files.makeDirectories r.base).1 = .ok ()) :
      Course r branch host s
        (r.addedOf branch ((exec (r.adding branch)).perform host
            (r.based (r.looked branch (r.queried branch host s)))).1,
          (r.based (r.looked branch (r.queried branch host s))).asked host [r.adding branch])

theorem conflict_reads (r : Repository) (branch : String) :
    Reads (do
      let _ ← r.list
      throw (.pathConflict (r.worktreePath branch)) : Worktree.Result ω String).run
        (r.git ["worktree", "list", "--porcelain"]) (r.conflictOf branch) := by
  refine list_reads.andThen ?_ ?_
  · intro reply entries told
    rw [conflictOf, told]
    rfl
  · intro reply e told
    rw [conflictOf, told]
    rfl

theorem adding_reads (r : Repository) (branch : String) :
    Reads (do
      let output ← Worktree.exec (r.adding branch)
      if output.success then pure (r.worktreePath branch)
      else throw (addError branch (r.worktreePath branch) output.complaint) :
        Worktree.Result ω String).run (r.adding branch) (r.addedOf branch) := by
  refine (Worktree.exec_reads _).output (fun output => ?_) fun e => rfl
  unfold addedOf
  dsimp only
  split
  · rfl
  · rfl

theorem create_course (r : Repository) (branch : String) (host : Host ω) (s : Session ω) :
    r.Course branch host s ((r.create branch : Worktree.Result ω String).run.perform host s) := by
  have asks := branchExists_reads (r := r) branch host s
  unfold create
  cases shown : ((exec (r.showRef branch)).perform host s).1 with
  | error e =>
    rw [shown] at asks
    rw [perform_bind_error asks]
    exact .unasked shown
  | ok output =>
    rw [shown] at asks
    rw [perform_bind_ok asks]
    cases success : output.success with
    | true => exact .shown shown success
    | false =>
      have looks : (pathExists (r.worktreePath branch)).perform host (r.queried branch host s) =
          ((r.queried branch host s).files.pathExists (r.worktreePath branch),
            r.looked branch (r.queried branch host s)) := rfl
      simp only [Bool.false_eq_true, ↓reduceIte]
      rw [perform_lift_bind looks]
      cases there : (r.queried branch host s).files.pathExists (r.worktreePath branch) with
      | true =>
        simp only [↓reduceIte, throw_bind]
        rw [conflict_reads r branch host]
        exact .taken shown success there
      | false =>
        have makes : (makeDirectories r.base).perform host
            (r.looked branch (r.queried branch host s)) =
              (((r.queried branch host s).files.makeDirectories r.base).1,
                r.based (r.looked branch (r.queried branch host s))) := rfl
        simp only [Bool.false_eq_true, ↓reduceIte]
        rw [perform_lift_bind makes]
        cases made : ((r.queried branch host s).files.makeDirectories r.base).1 with
        | error e => exact .noBase shown success there made
        | ok _ =>
          dsimp only
          rw [adding_reads r branch host]
          exact .asked shown success there made

/-! ## Nothing is adopted or overwritten -/

/-- git was asked for the branch, and did not exit with 0. -/
def Unshown (r : Repository) (branch : String) (host : Host ω) (s : Session ω) : Prop :=
  ∃ output, ((exec (r.showRef branch)).perform host s).1 = .ok output ∧ output.success = false

/-- git was asked what stands at the path, and nothing was done. What is told is that the path is
taken, unless the answer cannot be read. -/
structure Conflict (r : Repository) (branch : String) (host : Host ω) (s : Session ω)
    (made : Except Worktree.Error String × Session ω) (issued : List Command)
    (events : List Event) : Prop where
  queries : issued = [r.showRef branch, r.git ["worktree", "list", "--porcelain"]]
  untouched : (made.2.outside, made.2.files) = host.answerAll issued (s.outside, s.files)
  told : made.1 = .error (.pathConflict (r.worktreePath branch)) ∨ ∃ e reply,
    .ran (r.git ["worktree", "list", "--porcelain"]) reply ∈ events ∧
      r.entriesOfReply reply = .error e ∧ made.1 = .error e

/-- What holds of the making of a worktree whatever git answers, with the commands that are run, in
order, and the events, latest first. -/
structure NeverAdopts (r : Repository) (branch : String) (host : Host ω) (s : Session ω)
    (made : Except Worktree.Error String × Session ω) (issued : List Command)
    (events : List Event) : Prop where
  /-- A worktree is asked for at most once, and by the last command. -/
  once : issued = [r.showRef branch] ∨
    issued = [r.showRef branch, r.git ["worktree", "list", "--porcelain"]] ∨
    issued = [r.showRef branch, r.adding branch]
  single : ∀ first second, .ran (r.adding branch) first ∈ events →
    .ran (r.adding branch) second ∈ events → first = second
  /-- It is asked for only where git showed no branch and nothing was seen at the path. -/
  vacant : r.adding branch ∈ issued → r.Unshown branch host s ∧
    (r.queried branch host s).files.pathExists (r.worktreePath branch) = false
  /-- There is a worktree exactly if git was asked for one and exited with 0. -/
  ok_iff : ∀ path, made.1 = .ok path ↔ path = r.worktreePath branch ∧
    ∃ reply, .ran (r.adding branch) reply ∈ events ∧ reply.Succeeded
  /-- That the branch exists is told where git showed it, or complained in words like these. -/
  exists_iff : ∀ name, made.1 = .error (.branchExists name) ↔ name = branch ∧
    (((exec (r.showRef branch)).perform host s).1.Succeeded ∨
      ∃ output, .ran (r.adding branch) (.ok output) ∈ events ∧ output.success = false ∧
        Text.occurs "a branch named" output.complaint = true ∧
        Text.occurs "already exists" output.complaint = true)
  conflict : r.Unshown branch host s →
    (r.queried branch host s).files.pathExists (r.worktreePath branch) = true →
      r.Conflict branch host s made issued events
  /-- Before git is asked for a worktree, the directory above it is made, and that is all. -/
  ready : r.adding branch ∈ issued → ∃ before : Session ω,
    made.2 = before.asked host [r.adding branch] ∧
      before.outside = (r.queried branch host s).outside ∧
      before.files = ((r.queried branch host s).files.makeDirectories r.base).2
  /-- Where it is not asked for one, at most that directory was made. -/
  unasked : r.adding branch ∉ issued →
    (made.2.outside, made.2.files) = host.answerAll issued (s.outside, s.files) ∨
      made.2.outside = (r.queried branch host s).outside ∧
        made.2.files = ((r.queried branch host s).files.makeDirectories r.base).2

theorem adding_ne_showRef : r.adding branch ≠ r.showRef branch := by
  simp [git, Worktree.git]

theorem adding_ne_listing : r.adding branch ≠ r.git ["worktree", "list", "--porcelain"] := by
  simp [git, Worktree.git]

theorem conflictOf_cases (r : Repository) (branch : String) (reply : Reply) :
    r.conflictOf branch reply = .error (.pathConflict (r.worktreePath branch)) ∨
      ∃ e, r.entriesOfReply reply = .error e ∧ r.conflictOf branch reply = .error e := by
  cases told : r.entriesOfReply reply with
  | ok entries => exact .inl (by rw [conflictOf, told]; rfl)
  | error e => exact .inr ⟨e, rfl, by rw [conflictOf, told]; rfl⟩

theorem conflictOf_error (r : Repository) (branch : String) (reply : Reply) :
    ∃ e, r.conflictOf branch reply = .error e := by
  obtain refused | ⟨e, -, refused⟩ := r.conflictOf_cases branch reply
  · exact ⟨_, refused⟩
  · exact ⟨e, refused⟩

theorem conflictOf_ne_ok (reply : Reply) (path : String) :
    r.conflictOf branch reply ≠ .ok path := by
  intro same
  obtain ⟨e, refused⟩ := r.conflictOf_error branch reply
  cases refused.symm.trans same

theorem addedOf_isOk_iff {reply : Reply} : (r.addedOf branch reply).isOk ↔ reply.Succeeded := by
  cases reply with
  | error e => simp [addedOf, Reply.Succeeded, Except.isOk, Except.toBool]
  | ok output =>
    cases success : output.success with
    | true => simp [addedOf, Reply.Succeeded, success, Except.isOk, Except.toBool]
    | false => simp [addedOf, Reply.Succeeded, success, Except.isOk, Except.toBool]

theorem addedOf_eq_ok_iff {reply : Reply} {path : String} :
    r.addedOf branch reply = .ok path ↔ path = r.worktreePath branch ∧ reply.Succeeded := by
  cases reply with
  | error e => simp [addedOf, Reply.Succeeded]
  | ok output =>
    cases success : output.success with
    | true => simp [addedOf, Reply.Succeeded, success, eq_comm (a := path)]
    | false => simp [addedOf, Reply.Succeeded, success]

theorem addedOf_eq_branchExists_iff {reply : Reply} {name : String} :
    r.addedOf branch reply = .error (.branchExists name) ↔ name = branch ∧
      ∃ output, .ok output = reply ∧ output.success = false ∧
        Text.occurs "a branch named" output.complaint = true ∧
        Text.occurs "already exists" output.complaint = true := by
  cases reply with
  | error e => simp [addedOf]
  | ok output =>
    cases success : output.success with
    | true => simp [addedOf, success]
    | false =>
      simp only [addedOf, success, Bool.false_eq_true, ↓reduceIte, Except.error.injEq,
        Except.ok.injEq, exists_eq_left, true_and]
      unfold addError
      cases Text.occurs "a branch named" output.complaint with
      | true =>
        cases Text.occurs "already exists" output.complaint with
        | true => simp [eq_comm (a := branch)]
        | false => simp
      | false =>
        cases Text.occurs "already exists" output.complaint with
        | true => simp
        | false => simp

theorem conflictOf_ne_branchExists (reply : Reply) (name : String) :
    r.conflictOf branch reply ≠ .error (.branchExists name) := by
  intro same
  obtain refused | ⟨e, unread, refused⟩ := r.conflictOf_cases branch reply
  · cases refused.symm.trans same
  · cases refused.symm.trans same
    exact entriesOfReply_error unread.symm name rfl

theorem mem_asked_iff {last shown reply : Reply} {found made : Bool} :
    .ran (r.adding branch) reply ∈ [Event.ran (r.adding branch) last,
      .madeDirectories r.base made, .looked (r.worktreePath branch) found,
      .ran (r.showRef branch) shown] ↔ reply = last := by
  simp [adding_ne_showRef]

/-- The making of a worktree ends before git is asked for one. -/
theorem neverAdopts_of_unasked {made : Except Worktree.Error String × Session ω}
    {issued : List Command} {events : List Event}
    (once : issued = [r.showRef branch] ∨
      issued = [r.showRef branch, r.git ["worktree", "list", "--porcelain"]])
    (runs : issued = (events.filterMap Event.command?).reverse)
    (failed : ∀ path, made.1 ≠ .ok path)
    (exists_iff : ∀ name, made.1 = .error (.branchExists name) ↔
      name = branch ∧ ((exec (r.showRef branch)).perform host s).1.Succeeded)
    (conflict : r.Unshown branch host s →
      (r.queried branch host s).files.pathExists (r.worktreePath branch) = true →
        r.Conflict branch host s made issued events)
    (unasked : (made.2.outside, made.2.files) = host.answerAll issued (s.outside, s.files) ∨
      made.2.outside = (r.queried branch host s).outside ∧
        made.2.files = ((r.queried branch host s).files.makeDirectories r.base).2) :
    r.NeverAdopts branch host s made issued events := by
  have absent : r.adding branch ∉ issued := by
    rcases once with rfl | rfl
    · simp [adding_ne_showRef]
    · simp [adding_ne_showRef, adding_ne_listing]
  have silent (reply : Reply) : .ran (r.adding branch) reply ∉ events := by
    intro ran
    rw [runs, List.mem_reverse] at absent
    exact absent (List.mem_filterMap.mpr ⟨_, ran, rfl⟩)
  exact {
    once := once.imp_right .inl
    single := fun first _ ran => absurd ran (silent first)
    vacant := fun asked => absurd asked absent
    ok_iff := fun path => iff_of_false (failed path) fun ⟨_, reply, ran, _⟩ => silent reply ran
    exists_iff := by simpa [silent] using exists_iff
    conflict
    ready := fun asked => absurd asked absent
    unasked := fun _ => unasked }

theorem Course.neverAdopts {made : Except Worktree.Error String × Session ω}
    (course : r.Course branch host s made) :
    ∃ issued events, made.2.journal = events ++ s.journal ∧
      issued = (events.filterMap Event.command?).reverse ∧
      r.NeverAdopts branch host s made issued events := by
  cases course with
  | @unasked e shown =>
    refine ⟨[r.showRef branch], [_], rfl, rfl, neverAdopts_of_unasked (.inl rfl) rfl nofun ?_ ?_
      (.inl (Session.outside_asked _))⟩
    · simp [shown, Reply.Succeeded]
    · rintro ⟨output, ran, -⟩
      cases shown.symm.trans ran
  | @shown output shown success =>
    refine ⟨[r.showRef branch], [_], rfl, rfl, neverAdopts_of_unasked (.inl rfl) rfl nofun ?_ ?_
      (.inl (Session.outside_asked _))⟩
    · simp [shown, Reply.Succeeded, success, eq_comm (a := branch)]
    · rintro ⟨output', ran, absent⟩
      cases shown.symm.trans ran
      cases success.symm.trans absent
  | @taken output shown absent there =>
    refine ⟨[_, _], [_, _, _], rfl, rfl, neverAdopts_of_unasked (.inr rfl) rfl
      (conflictOf_ne_ok _) ?_ (fun _ _ => ⟨rfl, rfl, ?_⟩) (.inl rfl)⟩
    · simp [conflictOf_ne_branchExists, shown, Reply.Succeeded, absent]
    · refine (r.conflictOf_cases branch _).imp_right fun ⟨e, unread, refused⟩ => ?_
      exact ⟨e, _, List.mem_cons_self, unread, refused⟩
  | @noBase output e shown absent free failed =>
    refine ⟨[r.showRef branch], [_, _, _], rfl, rfl, neverAdopts_of_unasked (.inl rfl) rfl nofun ?_
      ?_ (.inr ⟨rfl, rfl⟩)⟩
    · simp [shown, Reply.Succeeded, absent]
    · intro _ there
      cases free.symm.trans there
  | @asked output shown absent free made =>
    refine ⟨[r.showRef branch, r.adding branch], [_, _, _, _], rfl, rfl, ?_⟩
    exact {
      once := .inr (.inr rfl)
      single := fun first second one other =>
        (mem_asked_iff.mp one).trans (mem_asked_iff.mp other).symm
      vacant := fun _ => ⟨⟨output, shown, absent⟩, free⟩
      ok_iff := fun path => by
        simp only [mem_asked_iff, exists_eq_left]
        exact addedOf_eq_ok_iff
      exists_iff := fun name => by
        have unshown : ¬ ((exec (r.showRef branch)).perform host s).1.Succeeded := by
          simp [shown, Reply.Succeeded, absent]
        simp only [mem_asked_iff, unshown, false_or]
        exact addedOf_eq_branchExists_iff
      conflict := fun _ there => nomatch free.symm.trans there
      ready := fun _ => ⟨_, rfl, rfl, rfl⟩
      unasked := fun unasked => absurd (by simp) unasked }

/-- A worktree that was made is where the worktree of the branch goes. -/
theorem create_path (branch : String) :
    Gives (r.create branch : Worktree.Result ω String).run fun result =>
      ∀ path, result = .ok path → path = r.worktreePath branch := by
  intro host s path made
  obtain ⟨issued, events, -, -, never⟩ := (r.create_course branch host s).neverAdopts
  exact ((never.ok_iff path).mp made).1

/-! ## Complaints of git -/

/-- git says that there is a branch of this name. -/
def SaysBranchExists (branch complaint : String) : Prop :=
  Text.occurs ("a branch named '" ++ branch ++ "' already exists") complaint = true

instance (branch complaint : String) : Decidable (SaysBranchExists branch complaint) :=
  inferInstanceAs (Decidable (_ = _))

/-- A complaint is taken for one that there is a branch of the name, and does not say so. -/
def Misread (branch complaint : String) : Prop :=
  Text.occurs "a branch named" complaint = true ∧ Text.occurs "already exists" complaint = true ∧
    ¬ SaysBranchExists branch complaint

/-- **What is there is neither adopted nor overwritten.** Whatever git answers and whatever is in
the file system, a worktree is asked for at most once, by the last command, at its path and for its
branch, and only where git showed no branch and nothing stood at the path; there is one exactly if
that command exits with 0; and nothing but the directory above is made before
(`Worktop.Repository.NeverAdopts`). A branch is told to exist only where git showed it or says so,
if and only if no complaint of git is misread. -/
theorem create_never_adopts_iff (r : Repository) (branch : String) (host : Host ω)
    (s : Session ω) :
    let made := (r.create branch : Worktree.Result ω String).run.perform host s
    ∃ issued events, made.2.commands = s.commands ++ issued ∧
      made.2.journal = events ++ s.journal ∧ r.NeverAdopts branch host s made issued events ∧
      ((∀ name, made.1 = .error (.branchExists name) →
          ((exec (r.showRef branch)).perform host s).1.Succeeded ∨
            ∃ output, .ran (r.adding branch) (.ok output) ∈ events ∧
              SaysBranchExists branch output.complaint) ↔
        ¬ ∃ output, .ran (r.adding branch) (.ok output) ∈ events ∧ output.success = false ∧
          Misread branch output.complaint) := by
  intro made
  obtain ⟨issued, events, journal, rfl, never⟩ := (r.create_course branch host s).neverAdopts
  refine ⟨_, events, Session.commands_of_journal journal, journal, never, ?_⟩
  constructor
  · rintro told ⟨output, ran, failure, named, taken, unsaid⟩
    have issued : r.adding branch ∈ (events.filterMap Event.command?).reverse :=
      List.mem_reverse.mpr (List.mem_filterMap.mpr ⟨_, ran, rfl⟩)
    have blamed : made.1 = .error (.branchExists branch) :=
      (never.exists_iff branch).mpr ⟨rfl, .inr ⟨output, ran, failure, named, taken⟩⟩
    obtain shown | ⟨other, again, said⟩ := told branch blamed
    · obtain ⟨⟨seen, same, absent⟩, -⟩ := never.vacant issued
      obtain ⟨_, same', success⟩ := shown
      cases same.symm.trans same'
      cases absent.symm.trans success
    · cases never.single _ _ ran again
      exact unsaid said
  · intro clear name told
    obtain ⟨-, shown | ⟨output, ran, failure, named, taken⟩⟩ := (never.exists_iff name).mp told
    · exact .inl shown
    · by_cases said : SaysBranchExists branch output.complaint
      · exact .inr ⟨output, ran, said⟩
      · exact absurd ⟨output, ran, failure, named, taken, said⟩ clear

/-- A repository whose worktrees go to a place with a misleading name. -/
def misnamed : Repository where
  root := "repo"
  base := "a branch named wip"

/-- What git says where something stands at the path of the worktree. -/
def takenComplaint : String :=
  "Preparing worktree (new branch 'demo')\nfatal: 'a branch named wip/demo' already exists"

/-- git shows no branch, and finds the path taken when it is asked for the worktree. -/
def takenSession : Session Script where
  outside := [{ outcome := .ok { exitCode := some 1 } },
    { outcome := .ok { stderr := takenComplaint, exitCode := some 128 },
      changes := [.makeDirectory "a branch named wip/demo"] }]

/-- The branch is told to exist, though git did not show it and complains only of the path. -/
theorem taken_path_is_told_as_branch :
    let made := (misnamed.create "demo" : Worktree.Result Script String).run.perform Script.host
      takenSession
    made.1 = .error (.branchExists "demo") ∧
      made.2.commands = [misnamed.showRef "demo", misnamed.adding "demo"] ∧
      ((exec (misnamed.showRef "demo")).perform Script.host takenSession).1 =
        .ok { exitCode := some 1 } ∧
      ((exec (misnamed.adding "demo")).perform Script.host
        (takenSession.asked Script.host [misnamed.showRef "demo"])).1 =
          .ok { stderr := takenComplaint, exitCode := some 128 } ∧
      ¬ SaysBranchExists "demo" takenComplaint := by
  intro made
  have told : made.1 = .error (.branchExists "demo") := by decide +kernel
  have issued : made.2.commands = [misnamed.showRef "demo", misnamed.adding "demo"] := by
    decide +kernel
  exact ⟨told, issued, rfl, rfl, by decide +kernel⟩

end Worktop.Repository

import Worktop.Proofs.PhaseOrder

/-! # What becomes of a worktree that is rolled back

An addition that fails removes the worktree that it made, but it does not look where that is: it
asks git for the worktree of the branch, and takes what it is told (`Worktop.Repository.Discards`).
So, where nothing is in the way (`Worktop.Repository.Undisturbed`), the worktree goes exactly if it
is the first one that is listed for the branch (`Worktop.Repository.Recognizes`). Otherwise it
stays, though it may be told as removed. Main statement:
`Worktop.Lifecycle.failed_add_discards_worktree_iff`.
-/

namespace Worktop

open Act hiding gives_lift_bind

variable {ω α : Type}

/-! ## Replies to one command -/

theorem Reply.succeeded_iff {reply : Reply} :
    reply.Succeeded ↔ reply.toOption.any Output.success = true := by
  cases reply <;> simp [Succeeded, Except.toOption]

instance (reply : Reply) : Decidable reply.Succeeded :=
  decidable_of_iff' _ reply.succeeded_iff

namespace Event

/-- The replies that a command got in events, latest first. -/
def repliesTo (c : Command) (events : List Event) : List Reply :=
  events.filterMap fun
    | .ran c' reply => if c' = c then some reply else none
    | _ => none

variable {c : Command} {reply : Reply} {events : List Event}

@[simp] theorem repliesTo_nil : repliesTo c [] = [] := rfl

@[simp] theorem repliesTo_ran (c' : Command) (reply : Reply) (old : List Event) :
    repliesTo c (.ran c' reply :: old) =
      if c' = c then reply :: repliesTo c old else repliesTo c old := by
  unfold repliesTo
  rw [List.filterMap_cons]
  by_cases same : c' = c <;> simp [same]

@[simp] theorem repliesTo_looked (path : String) (found : Bool) (old : List Event) :
    repliesTo c (.looked path found :: old) = repliesTo c old := rfl

theorem mem_repliesTo : reply ∈ repliesTo c events ↔ .ran c reply ∈ events := by
  induction events with
  | nil => simp [repliesTo]
  | cons event events ih =>
    rw [List.mem_cons, ← ih]
    cases event with
    | ran c' reply' =>
      by_cases same : c' = c
      · simp [same]
      · simp [same, Ne.symm same]
    | _ => simp [repliesTo]

@[simp] theorem repliesTo_append (new old : List Event) :
    repliesTo c (new ++ old) = repliesTo c new ++ repliesTo c old :=
  List.filterMap_append

theorem repliesTo_of_runsOnly {allowed : Command → Prop} (runs : RunsOnly allowed events)
    (other : ¬ allowed c) : repliesTo c events = [] := by
  rw [List.eq_nil_iff_forall_not_mem]
  exact fun reply member => other (runs c reply (mem_repliesTo.mp member))

/-- If this is a command of git, then it went well, and if it is a look at a path, then something is
there. -/
def Smooth (path : String) : Event → Prop
  | .ran c reply => c.program = "git" → reply.Succeeded
  | .looked other found => other = path → found = true
  | _ => True

instance (path : String) : (event : Event) → Decidable (event.Smooth path)
  | .ran .. | .looked .. => inferInstanceAs (Decidable (_ → _))
  | .read .. | .madeDirectories .. | .locked _ | .refused _ | .released _ | .paused _ =>
    inferInstanceAs (Decidable True)

end Event

open Command (Idle)
open Event (repliesTo mem_repliesTo repliesTo_append)

/-! ## Removing the worktree of a branch -/

namespace Repository

variable {r : Repository} {branch : String}

@[simp] theorem git_inj {words words' : List String} :
    r.git words = r.git words' ↔ words = words' := by
  simp [git, Worktree.git]

/-- The command that lists the worktrees. -/
abbrev listing (r : Repository) : Command :=
  r.git ["worktree", "list", "--porcelain"]

/-- The command that removes the worktree at a path with all that is in it. -/
abbrev removal (r : Repository) (path : String) : Command :=
  r.git ["worktree", "remove", "--force", path]

/-- The command that forgets the worktrees whose directories are gone. -/
abbrev pruning (r : Repository) : Command :=
  r.git ["worktree", "prune"]

/-- The worktrees of a listing, and none where it failed. -/
def listed (r : Repository) (reply : Reply) : List Worktree.Entry :=
  (r.entriesOfReply reply).toOption.getD []

/-- The first worktree that a listing has for a branch, if there was a listing and it has one. -/
def listedFor? (r : Repository) (branch : String) (reply : Reply) : Option Worktree.Entry :=
  (r.listed reply).find? (·.branch = some branch)

/-- How the worktree of a branch may be removed by force, given the reply to the listing: the
events, latest first, and whether it counts as removed. -/
inductive Discards (r : Repository) (branch : String) (reply : Reply) :
    List Event → Except Lifecycle.Cause Unit → Prop
  | unread {e : Worktree.Error} (told : r.entriesOfReply reply = .error e) :
      Discards r branch reply [.ran r.listing reply] (.error (.worktree e))
  | unknown (read : (r.entriesOfReply reply).isOk) (none : r.listedFor? branch reply = none) :
      Discards r branch reply [.ran r.listing reply] (.ok ())
  | main {entry : Worktree.Entry} {cause : Lifecycle.Cause}
      (found : r.listedFor? branch reply = some entry) (isMain : entry.isMain = true) :
      Discards r branch reply [.ran r.listing reply] (.error cause)
  | removed {entry : Worktree.Entry} {done : Reply} {result : Except Lifecycle.Cause Unit}
      (found : r.listedFor? branch reply = some entry) (linked : entry.isMain = false)
      (told : result.isOk ↔ done.Succeeded) :
      Discards r branch reply [.ran (r.removal entry.path) done, .looked entry.path true,
        .ran r.listing reply] result
  | pruned {entry : Worktree.Entry} {done : Reply} {result : Except Lifecycle.Cause Unit}
      (found : r.listedFor? branch reply = some entry) (linked : entry.isMain = false)
      (told : result.isOk ↔ done.Succeeded) :
      Discards r branch reply [.ran r.pruning done, .looked entry.path false,
        .ran r.listing reply] result

/-- What counts of a removal in a rollback: that there is nothing to remove is fine. -/
def forgiven : Except Worktree.Error Unit → Except Lifecycle.Cause Unit
  | .ok () | .error (.notFound _) => .ok ()
  | .error e => .error (.worktree e)

/-- A listing that fails is never taken for one without the worktree. -/
theorem forgiven_of_unread {reply : Reply} {e : Worktree.Error}
    (told : r.entriesOfReply reply = .error e) : forgiven (.error e) = .error (.worktree e) := by
  cases reply with
  | error spawn =>
    cases told
    rfl
  | ok output =>
    rw [entriesOfReply_output] at told
    split at told
    · cases told
    · cases told
      rfl

theorem listedFor?_eq {reply : Reply} {entries : List Worktree.Entry}
    (told : .ok entries = r.entriesOfReply reply) :
    r.listedFor? branch reply = entries.find? (·.branch = some branch) := by
  rw [listedFor?, listed, ← told]
  rfl

/-- A last command counts by its exit code. -/
theorem exec_counts (c : Command) {error : Output → Worktree.Error}
    (serious : ∀ output what, error output ≠ .notFound what) :
    Emits (do
      let output ← Worktree.exec c
      if !output.success then throw (error output) : Worktree.Result ω Unit).run
      fun events result => ∃ done, events = [.ran c done] ∧
        ((forgiven result).isOk ↔ done.Succeeded) := by
  refine (Worktree.exec_emits c).andThen ?_ ?_
  · intro output old given
    obtain ⟨done, rfl, told⟩ := given
    obtain rfl := reply_of_ok told
    cases success : output.success with
    | true => exact emits_ok ⟨_, rfl, iff_of_true rfl ⟨output, rfl, success⟩⟩
    | false =>
      refine emits_error ⟨_, rfl, iff_of_false ?_ ?_⟩
      · cases cause : error output with
        | notFound what => exact (serious output what cause).elim
        | _ => exact nofun
      · rintro ⟨_, same, succeeded⟩
        cases same
        rw [success] at succeeded
        cases succeeded
  · intro e old given
    obtain ⟨done, rfl, told⟩ := given
    cases done with
    | ok output => cases told
    | error spawn =>
      cases told
      exact ⟨_, rfl, iff_of_false nofun nofun⟩

/-- The worktree of a branch is what the one listing has for it. -/
theorem findWorktree_finds (branch : String) :
    Emits (r.findWorktree branch : Worktree.Result ω _).run fun events result =>
      ∃ reply, events = [.ran r.listing reply] ∧ match result with
        | .ok entry? => (r.entriesOfReply reply).isOk ∧ r.listedFor? branch reply = entry?
        | .error e => r.entriesOfReply reply = .error e := by
  unfold findWorktree
  refine list_emits.andThen ?_ ?_
  · intro entries old given
    obtain ⟨reply, rfl, told⟩ := given
    exact emits_ok ⟨reply, rfl, by rw [← told]; rfl, listedFor?_eq told⟩
  · intro e old given
    obtain ⟨reply, rfl, told⟩ := given
    exact ⟨reply, rfl, told.symm⟩

theorem remove_discards :
    Emits (r.remove branch true : Worktree.Result ω Unit).run fun events result =>
      ∃ reply, Discards r branch reply events (forgiven result) := by
  unfold remove
  refine (findWorktree_finds branch).andThen ?_ ?_
  · intro entry? old given
    obtain ⟨reply, rfl, read, found⟩ := given
    cases entry? with
    | none => exact emits_error ⟨reply, .unknown read found⟩
    | some entry =>
      dsimp only
      split
      · rename_i isMain
        exact emits_error ⟨reply, .main found isMain⟩
      · rename_i other
        have linked := Bool.eq_false_iff.mpr other
        apply emits_look
        intro there
        cases there with
        | true =>
          refine (exec_counts (r.removal entry.path) fun output what same => ?_).mono ?_
          · unfold removeError at same
            split at same <;> cases same
          · intro new result given
            obtain ⟨done, rfl, told⟩ := given
            exact ⟨reply, .removed found linked told⟩
        | false =>
          apply (exec_counts r.pruning fun _ _ same => by cases same).mono
          intro new result given
          obtain ⟨done, rfl, told⟩ := given
          exact ⟨reply, .pruned found linked told⟩
  · intro e old given
    obtain ⟨reply, rfl, told⟩ := given
    rw [forgiven_of_unread told]
    exact ⟨reply, .unread told⟩

/-- The worktree of a branch counts as removed: the listing that was read has none for the branch,
or the one that it has was removed, or forgotten. -/
def CountsAsRemoved (r : Repository) (branch : String) (listing : Reply) (events : List Event) :
    Prop :=
  (r.entriesOfReply listing).isOk ∧ ∀ entry ∈ r.listedFor? branch listing,
    entry.isMain = false ∧ ∃ reply : Reply, reply.Succeeded ∧
      (reply ∈ repliesTo (r.removal entry.path) events ∨ reply ∈ repliesTo r.pruning events)

theorem read_of_found {reply : Reply} {entry : Worktree.Entry}
    (found : entry ∈ r.listedFor? branch reply) : (r.entriesOfReply reply).isOk := by
  cases told : r.entriesOfReply reply with
  | ok _ => rfl
  | error e => simp [listedFor?, listed, told, Except.toOption] at found

theorem countsAsRemoved_iff {reply : Reply} {entry : Worktree.Entry} {events : List Event}
    (found : r.listedFor? branch reply = some entry) :
    r.CountsAsRemoved branch reply events ↔ entry.isMain = false ∧ ∃ done : Reply, done.Succeeded ∧
      (done ∈ repliesTo (r.removal entry.path) events ∨ done ∈ repliesTo r.pruning events) := by
  simp [CountsAsRemoved, read_of_found found, found]

/-- The worktree at a path is gone: it was removed, or its directory was not there any more and it
was forgotten. -/
def Gone (r : Repository) (path : String) (events : List Event) : Prop :=
  ∃ reply : Reply, reply.Succeeded ∧ (reply ∈ repliesTo (r.removal path) events ∨
    .looked path false ∈ events ∧ reply ∈ repliesTo r.pruning events)

/-- Nothing is in the way of removing the worktree at a path: git does what it is told, and the
directory is there. -/
def Undisturbed (path : String) (events : List Event) : Prop :=
  ∀ event ∈ events, event.Smooth path

instance (path : String) (events : List Event) : Decidable (Undisturbed path events) :=
  inferInstanceAs (Decidable (∀ event ∈ events, event.Smooth path))

theorem Undisturbed.found {path : String} {found : Bool} {events : List Event}
    (undisturbed : Undisturbed path events) (member : .looked path found ∈ events) :
    found = true :=
  undisturbed _ member rfl

theorem Undisturbed.succeeded {path : String} {words : List String} {reply : Reply}
    {events : List Event} (undisturbed : Undisturbed path events)
    (member : reply ∈ repliesTo (r.git words) events) : reply.Succeeded :=
  undisturbed _ (mem_repliesTo.mp member) rfl

theorem Undisturbed.subset {path : String} {events more : List Event}
    (undisturbed : Undisturbed path more) (subset : events ⊆ more) : Undisturbed path events :=
  fun event member => undisturbed event (subset member)

/-- A listing has the worktree at a path for a branch, and it is not the main one. -/
def Recognizes (r : Repository) (branch path : String) (reply : Reply) : Prop :=
  ∃ entry ∈ r.listedFor? branch reply, entry.isMain = false ∧ entry.path = path

instance (path : String) (reply : Reply) : Decidable (r.Recognizes branch path reply) :=
  inferInstanceAs (Decidable (∃ entry ∈ r.listedFor? branch reply,
    entry.isMain = false ∧ entry.path = path))

/-- A listing has the worktree at a path, whichever branch it has, and it is not the main one. -/
def Lists (r : Repository) (path : String) (reply : Reply) : Prop :=
  ∃ entry ∈ r.listed reply, entry.isMain = false ∧ entry.path = path

instance (path : String) (reply : Reply) : Decidable (r.Lists path reply) :=
  inferInstanceAs (Decidable (∃ entry ∈ r.listed reply, entry.isMain = false ∧ entry.path = path))

namespace Discards

variable {events : List Event} {result : Except Lifecycle.Cause Unit} {reply : Reply}
  {path : String}

theorem listed (discards : r.Discards branch reply events result) :
    repliesTo r.listing events = [reply] := by
  cases discards <;> simp

/-- What a removal tells follows from the listing and from what the last command replied. -/
theorem isOk_iff (discards : r.Discards branch reply events result) :
    result.isOk ↔ r.CountsAsRemoved branch reply events := by
  cases discards with
  | unread told =>
    refine iff_of_false nofun fun counts => ?_
    have read := counts.1
    rw [told] at read
    cases read
  | unknown read none =>
    refine iff_of_true rfl ⟨read, fun entry found => ?_⟩
    cases none.symm.trans found
  | main found isMain => exact iff_of_false nofun (by simp [countsAsRemoved_iff found, isMain])
  | removed found linked told => simp [told, countsAsRemoved_iff found, linked]
  | pruned found linked told => simp [told, countsAsRemoved_iff found, linked]

/-- A worktree is removed only where the listing has it for the branch. -/
theorem recognizes (discards : r.Discards branch reply events result)
    (issued : repliesTo (r.removal path) events ≠ []) : r.Recognizes branch path reply := by
  cases discards with
  | @removed entry _ _ found linked told =>
    obtain rfl : entry.path = path := by simpa using issued
    exact ⟨entry, found, linked, rfl⟩
  | _ => simp at issued

/-- A worktree that the listing has for the branch is removed if its directory is there. -/
theorem removes (discards : r.Discards branch reply events result)
    (recognized : r.Recognizes branch path reply) (there : .looked path false ∉ events) :
    ∃ done, repliesTo (r.removal path) events = [done] := by
  obtain ⟨entry, found, linked, rfl⟩ := recognized
  cases discards with
  | unread told =>
    have read := read_of_found found
    rw [told] at read
    cases read
  | unknown read none => cases none.symm.trans found
  | main found' isMain =>
    cases found'.symm.trans found
    cases isMain.symm.trans linked
  | removed found' =>
    cases found'.symm.trans found
    exact ⟨_, by simp; rfl⟩
  | pruned found' =>
    cases found'.symm.trans found
    simp at there

end Discards

end Repository

namespace Lifecycle.Add

variable {setup : Setup} {workspace : Workspace} {branch : String} {config : Config}
  {host : Host ω} {s s' : Session ω}

theorem undo_worktree_discards (path : String) :
    Emits (undo setup (.worktree branch path) : ExceptT Cause (Act ω) Unit).run
      fun events result => ∃ reply, setup.repository.Discards branch reply events result := by
  unfold undo
  have removes : Emits (ExceptT.lift (setup.repository.remove branch true).run :
      ExceptT Cause (Act ω) (Except Worktree.Error Unit)).run fun events result =>
        ∃ removed, result = .ok removed ∧
          ∃ reply, setup.repository.Discards branch reply events (Repository.forgiven removed) :=
    Emits.lift (Repository.remove_discards.mono fun _ removed holds => ⟨removed, rfl, holds⟩)
  refine removes.andThen ?_ ?_
  · intro removed old given
    obtain ⟨_, same, discards⟩ := given
    cases same
    split
    · exact emits_ok discards
    · exact emits_ok discards
    · rename_i e other
      cases e with
      | notFound what => exact (other what rfl).elim
      | _ => exact emits_error discards
  · intro e old given
    obtain ⟨_, same, -⟩ := given
    cases same

/-! ## What an addition has made when it fails -/

/-- Of git, nothing is run that takes anything away. -/
def Constructive (c : Command) : Prop :=
  c.program = "git" → ¬ c.Destructive

/-- A command that has nothing to do with worktrees. -/
def Aside (c : Command) : Prop :=
  c.program = "git" → c.words.head? ≠ some "worktree"

/-- The branch and its worktree were made, and nothing after them but a window and panes. -/
def Begun (setup : Setup) (branch : String) (progress : Progress) : Prop :=
  ∃ more, progress.created =
      .branch branch :: .worktree branch (setup.workspace branch).worktreePath :: more ∧
    ∀ resource ∈ more, resource.kind = .window ∨ resource.kind = .pane

theorem Begun.made {progress : Progress} (begun : Begun setup branch progress)
    {resource : Resource} (kind : resource.kind = .window ∨ resource.kind = .pane) :
    Begun setup branch { progress with created := progress.created ++ [resource] } := by
  obtain ⟨more, created, kinds⟩ := begun
  refine ⟨more ++ [resource], by simp [created], ?_⟩
  intro other member
  rcases List.mem_append.mp member with earlier | last
  · exact kinds other earlier
  · exact List.mem_singleton.mp last ▸ kind

theorem steady_begun : Steady (Begun setup branch) where
  pane _ _ begun := begun.made (.inr rfl)
  hooks _ begun := begun
  warning _ begun := begun

theorem not_git_of_own {m : Multiplexer} {c : Command} (own : c.program = m.kind.name) :
    c.program ≠ "git" := by
  rw [own]
  exact m.kind.name_ne_git

theorem not_added_of_harmless {events : List Event}
    (harmless : RunsOnly (fun c => ¬ c.CreatesBranch branch) events) :
    ¬ WorktreeAdded setup branch events := by
  intro added
  obtain ⟨reply, -, member⟩ := added
  exact harmless _ _ member ⟨rfl, by simp [Repository.git]⟩

theorem worktreeAdded_iff {events : List Event} :
    WorktreeAdded setup branch events ↔ ∃ reply ∈ repliesTo (setup.repository.git
      ["worktree", "add", "-b", branch, (setup.workspace branch).worktreePath]) events,
        reply.Succeeded := by
  simp only [WorktreeAdded, mem_repliesTo, and_comm]

instance (events : List Event) : Decidable (WorktreeAdded setup branch events) :=
  decidable_of_iff' _ worktreeAdded_iff

theorem worktreeAdded_append {new old : List Event} :
    WorktreeAdded setup branch (new ++ old) ↔
      WorktreeAdded setup branch new ∨ WorktreeAdded setup branch old := by
  simp only [WorktreeAdded, List.mem_append, and_or_left, exists_or]

theorem createWorktree_begins :
    (createWorktree setup branch : Adding ω String).Emits {} fun events result after =>
      RunsOnly Constructive events ∧ match result with
        | .ok _ => Begun setup branch after
        | .error _ => ¬ WorktreeAdded setup branch events := by
  have mild : ∀ {args : List String}, args.take 2 ≠ ["worktree", "remove"] →
      args.take 2 ≠ ["worktree", "prune"] → args.head? ≠ some "branch" →
      Constructive (setup.repository.git args) :=
    fun remains kept plain _ => Repository.mild_of_words remains kept plain
  have creates : Within Constructive
      (setup.repository.create branch : Worktree.Result ω String).run := by
    refine Repository.create_within ?_ ?_ ?_
    all_goals exact mild (by simp) (by simp) (by simp)
  have asks : Within Constructive
      (setup.repository.branchExists branch : Worktree.Result ω Bool).run :=
    Repository.branchExists_within (mild (by simp) (by simp) (by simp))
  have looks : Within (fun c => ¬ c.CreatesBranch branch)
      (setup.repository.branchExists branch : Worktree.Result ω Bool).run :=
    Repository.branchExists_within Repository.showRef_harmless.2
  unfold createWorktree
  refine Adding.emits_lift_bind
    ((Repository.create_emits.and creates.only).gives (Repository.create_path branch)) ?_
  intro result old given
  obtain ⟨⟨made, constructive⟩, named⟩ := given
  cases result with
  | ok path =>
    obtain rfl := named path rfl
    exact Adding.emits_made_bind (Adding.emits_made_bind (Adding.emits_pure
      ⟨constructive, [], rfl, fun _ => nofun⟩))
  | error e =>
    -- The branch may be noted all the same, where it shows now, but never the worktree.
    have failed : ¬ WorktreeAdded setup branch old := by
      rcases made with ⟨reply, earlier, rfl, harmless, told⟩ | ⟨seen, rfl, -⟩ | ⟨cut, -⟩
      · rintro ⟨reply', succeeded, member⟩
        rcases List.mem_cons.mp member with same | before
        · cases same
          cases told.mpr succeeded
        · exact (harmless _ _ before).2 ⟨rfl, by simp [Repository.git]⟩
      · exact not_added_of_harmless (runsOnly_ran Repository.showRef_harmless.2 _)
      · exact not_added_of_harmless (cut.harmless.imp fun _ => And.right)
    refine Adding.emits_lift_bind (asks.only.and looks.only) ?_
    intro left new given
    obtain ⟨constructive', harmless⟩ := given
    have ended : RunsOnly Constructive (new ++ old) ∧
        ¬ WorktreeAdded setup branch (new ++ old) := by
      refine ⟨Composable.append constructive' constructive, ?_⟩
      rw [worktreeAdded_append]
      exact not_or.mpr ⟨not_added_of_harmless harmless, failed⟩
    dsimp only
    split
    · exact Adding.emits_throw ended
    · exact Adding.emits_made_bind (Adding.emits_throw ended)
    · exact Adding.emits_throw ended

theorem equip_begun (path : String) :
    (equip setup workspace config path : Adding ω Unit).Within (fun c => c.program ≠ "git")
      (Begun setup branch) := by
  have opens : Act.Within (fun c => c.program ≠ "git") (setup.mux.createWindow
      workspace.windowName path workspace.env : Mux.Result ω Mux.Window).run :=
    (setup.mux.createWindow_own _ _ _).imp fun _ => not_git_of_own
  have shells : ∀ hook, (Hook.command hook path workspace.env).program ≠ "git" :=
    fun _ => by simp [Hook.command]
  unfold equip createWindow
  apply Adding.Within.bind
  · apply (Adding.within_attempt opens _).bind
    intro window
    apply Adding.Within.bind (Adding.within_modify fun _ begun => begun.made (.inl rfl))
    intro _
    apply Adding.Within.bind (Adding.within_modify fun _ begun => begun.made (.inr rfl))
    exact fun _ => Adding.within_pure window
  · intro window
    exact furnish_within steady_begun shells (fun _ mild => not_git_of_own mild.1) config window

theorem provision_begins (setup : Setup) (branch : String) (config : Config) :
    (provision setup (setup.workspace branch) config : Adding ω Unit).Emits {}
      fun events _ after => RunsOnly Constructive events ∧
        (WorktreeAdded setup branch events → Begun setup branch after) := by
  rw [provision_eq]
  refine Adding.Emits.bind createWorktree_begins ?_ ?_
  · intro path progress old given
    obtain ⟨constructive, begun⟩ := given
    apply ((equip_begun path).keeps progress begun).mono
    intro new result after given
    obtain ⟨others, begun'⟩ := given
    exact ⟨Composable.append (others.imp fun c other git => (other git).elim) constructive,
      fun _ => begun'⟩
  · intro e progress old given
    obtain ⟨constructive, failed⟩ := given
    exact ⟨constructive, fun added => (failed added).elim⟩

/-! ## Rolling back -/

theorem undo_window_aside (name : String) :
    Within Aside (undo setup (.window name) : ExceptT Cause (Act ω) Unit).run :=
  undo_window_within ((Multiplexer.destroyWindow_own name).imp fun _ own git =>
    (not_git_of_own own git).elim)

theorem undo_branch_aside (name : String) :
    Within Aside (undo setup (.branch name) : ExceptT Cause (Act ω) Unit).run := by
  refine undo_branch_within (Repository.deleteBranch_within true ?_ fun rest => ?_)
  · simp [Aside, Repository.git]
  · simp [Aside, Repository.git]

/-- Nothing is created while an addition is rolled back. -/
theorem rollBack_harmless (resources : List Resource) :
    Within (fun c => ¬ c.CreatesBranch branch)
      (rollBack setup resources : Act ω (List Resource × List Error)) := by
  refine rollBack_within (undo_within (fun name => ?_) (fun owner => ?_) fun name => ?_) resources
  · exact (Multiplexer.destroyWindow_own name).imp fun _ own creates =>
      not_git_of_own own creates.1
  · refine Repository.remove_within true ?_ (fun rest => ?_) ?_
    all_goals simp [Command.CreatesBranch, Repository.git]
  · refine Repository.deleteBranch_within true ?_ fun rest => ?_
    all_goals simp [Command.CreatesBranch, Repository.git]

/-- What was made last is undone first, so the worktree goes after its window and before its
branch. -/
theorem Begun.undoOrder {progress : Progress} (begun : Begun setup branch progress) :
    ∃ windows, Add.undoOrder progress.created = windows ++
        [.worktree branch (setup.workspace branch).worktreePath, .branch branch] ∧
      ∀ resource ∈ windows, resource.kind = .window := by
  obtain ⟨more, created, kinds⟩ := begun
  refine ⟨more.reverse.filter (·.pane?.isNone), ?_, fun resource member => ?_⟩
  · simp [Add.undoOrder, created, Resource.pane?]
  · obtain ⟨noted, whole⟩ := List.mem_filter.mp member
    rcases kinds resource (List.mem_reverse.mp noted) with window | pane
    · exact window
    · cases resource with
      | pane home id => cases whole
      | _ => cases pane

theorem repliesTo_of_aside {events : List Event} (aside : RunsOnly Aside events)
    (words : List String) : repliesTo (setup.repository.git ("worktree" :: words)) events = [] :=
  Event.repliesTo_of_runsOnly aside (by simp [Aside, Repository.git])

/-- Events in which the worktree of a branch was rolled back, given the reply to the listing: some
of them removed it, and otherwise git was told nothing of worktrees. -/
structure RolledBack (setup : Setup) (branch : String) (events : List Event)
    (removed : List Resource) (reply : Reply) (discarding : List Event)
    (result : Except Cause Unit) : Prop where
  within : discarding ⊆ events
  discards : setup.repository.Discards branch reply discarding result
  replies : ∀ words, repliesTo (setup.repository.git ("worktree" :: words)) events =
    repliesTo (setup.repository.git ("worktree" :: words)) discarding
  removed : ∀ owner path, .worktree owner path ∈ removed ↔
    (owner = branch ∧ path = (setup.workspace branch).worktreePath) ∧ result.isOk

/-- What has nothing to do with worktrees may be done before and after. -/
theorem RolledBack.between {events newer older : List Event} {removed : List Resource}
    {reply : Reply} {discarding : List Event} {result : Except Cause Unit}
    (rolled : RolledBack setup branch events removed reply discarding result)
    (after : RunsOnly Aside newer) (before : RunsOnly Aside older) :
    RolledBack setup branch (newer ++ events ++ older) removed reply discarding result where
  within _ member := by simp [rolled.within member]
  discards := rolled.discards
  replies words := by simp [rolled.replies, repliesTo_of_aside after, repliesTo_of_aside before]
  removed := rolled.removed

/-- What a rollback tells, with one more attempt before. -/
def tally (resource : Resource) (result : Except Cause Unit)
    (told : List Resource × List Error) : List Resource × List Error :=
  match result with
  | .ok _ => (resource :: told.1, told.2)
  | .error cause => (told.1, { phase := .rollback, kind := .teardown, cause } :: told.2)

theorem mem_tally {resource other : Resource} {result : Except Cause Unit}
    {told : List Resource × List Error} :
    other ∈ (tally resource result told).1 ↔ other = resource ∧ result.isOk ∨ other ∈ told.1 := by
  cases result <;> simp [tally, Except.isOk, Except.toBool]

/-- One thing is undone first, and then the others, whatever came of it. -/
theorem rollBack_cons_emits {resource : Resource} {rest : List Resource}
    {first : List Event → Except Cause Unit → Prop}
    {spec : List Event → List Resource × List Error → Prop}
    (undoes : Emits (undo setup resource : ExceptT Cause (Act ω) Unit).run first)
    (others : ∀ result old, first old result →
      Emits (rollBack setup rest : Act ω (List Resource × List Error)) fun new told =>
        spec (new ++ old) (tally resource result told)) :
    Emits (rollBack setup (resource :: rest) : Act ω (List Resource × List Error)) spec := by
  rw [rollBack]
  refine Emits.bind undoes fun result old holds => ?_
  have later := others result old holds
  cases result with
  | ok _ => exact Emits.bind later fun told new holds => emits_pure holds
  | error cause => exact Emits.bind later fun told new holds => emits_pure holds

theorem rollBack_branch :
    Emits (rollBack setup [.branch branch] : Act ω (List Resource × List Error))
      fun events told => RunsOnly Aside events ∧ ∀ owner path, .worktree owner path ∉ told.1 := by
  apply rollBack_cons_emits (undo_branch_aside branch).only
  intro result old aside
  apply emits_pure
  refine ⟨aside, fun owner path => ?_⟩
  simp [mem_tally]

theorem rollBack_worktree (windows : List Resource)
    (kinds : ∀ resource ∈ windows, resource.kind = .window) :
    Emits (rollBack setup (windows ++
        [.worktree branch (setup.workspace branch).worktreePath, .branch branch]) :
        Act ω (List Resource × List Error)) fun events told =>
      ∃ reply discarding result,
        RolledBack setup branch events told.1 reply discarding result := by
  induction windows with
  | nil =>
    apply rollBack_cons_emits (undo_worktree_discards _)
    intro result discarding given
    obtain ⟨reply, discards⟩ := given
    apply rollBack_branch.mono
    intro newer told given
    obtain ⟨aside, other⟩ := given
    exact ⟨reply, discarding, result, {
      within := List.subset_append_right _ _
      discards
      replies := fun words => by simp [repliesTo_of_aside aside]
      removed := fun owner path => by simp [mem_tally, other] }⟩
  | cons window windows ih =>
    have rest := ih fun other member => kinds other (List.mem_cons_of_mem _ member)
    obtain ⟨name, rfl⟩ : ∃ name, window = .window name := by
      have kind : window.kind = .window := kinds window List.mem_cons_self
      cases window with
      | window name => exact ⟨name, rfl⟩
      | _ => cases kind
    apply rollBack_cons_emits (undo_window_aside name).only
    intro result old aside
    apply rest.mono
    intro new told given
    obtain ⟨reply, discarding, discarded, rolled⟩ := given
    exact ⟨reply, discarding, discarded, { rolled.between Composable.nil aside with
      removed := fun owner path => by simp [mem_tally, rolled.removed] }⟩

theorem Begun.rollBack {progress : Progress} (begun : Begun setup branch progress) :
    Emits (Add.rollBack setup (Add.undoOrder progress.created) :
      Act ω (List Resource × List Error)) fun events told =>
        ∃ reply discarding result,
          RolledBack setup branch events told.1 reply discarding result := by
  obtain ⟨windows, order, kinds⟩ := begun.undoOrder
  rw [order]
  exact rollBack_worktree windows kinds

theorem validate_constructive :
    Within Constructive (validate setup workspace config : ExceptT Error (Act ω) Unit).run := by
  refine validate_within (fun _ mild _ => mild.2) ?_ ?_
  all_goals exact fun _ => Repository.mild_of_words (by simp) (by simp) (by simp)

theorem build_rolledBack {e : Error} {progress : Progress} {failedIn after : Session ω}
    {o : Outcome AddState}
    (made : EndsWith (provision setup (setup.workspace branch) config) host {} s (.error e)
      progress failedIn)
    (built : (build setup (setup.workspace branch) config).perform host s = (o, after)) :
    o.created = progress.created ∧ ∃ earlier later,
      failedIn.journal = earlier ++ s.journal ∧ after.journal = later ++ failedIn.journal ∧
      RunsOnly Constructive earlier ∧ RunsOnly Idle later ∧
      (WorktreeAdded setup branch (later ++ earlier) → ∃ reply discarding result,
        RolledBack setup branch later o.removed reply discarding result) := by
  obtain ⟨earlier, provisioning, constructive, begins⟩ :=
    provision_begins setup branch config host s
  rw [made] at provisioning begins
  have harmless : Within (fun c => ¬ c.CreatesBranch branch)
      (rollBack setup (undoOrder progress.created) : Act ω _) :=
    rollBack_harmless _
  obtain ⟨later, rolling, spares, idle⟩ :=
    (harmless.only.and (rollBack_idle setup _).only) host failedIn
  cases undone : (rollBack setup (undoOrder progress.created)).perform host failedIn with
  | mk told after =>
  obtain ⟨removed, errors⟩ := told
  rw [undone] at rolling
  rw [perform_build_error made undone] at built
  cases built
  refine ⟨rfl, earlier, later, provisioning, rolling, constructive, idle, fun added => ?_⟩
  -- A rollback creates nothing, so git added the worktree before, and it was noted.
  have begun : Begun setup branch progress := by
    rcases worktreeAdded_append.mp added with late | early
    · exact (not_added_of_harmless spares late).elim
    · exact begins early
  obtain ⟨later', rolling', rolledBack⟩ := begun.rollBack host failedIn
  rw [undone] at rolling' rolledBack
  obtain rfl := List.append_cancel_right (rolling.symm.trans rolling')
  exact rolledBack

/-- An addition has failed and has rolled its worktree back: the events up to the step that failed,
those since, the reply to the listing, and those of the latter that removed the worktree, with what
came of it. -/
structure Retreats (setup : Setup) (branch : String) (config : Config) (host : Host ω)
    (s : Session ω) (o : Outcome AddState) (earlier later : List Event) (reply : Reply)
    (discarding : List Event) (result : Except Cause Unit) : Prop where
  fails : ∃ step e failedIn, Fails setup branch config host s step e o.created failedIn ∧
    failedIn.journal = earlier ++ s.journal
  constructive : RunsOnly Constructive earlier
  idle : RunsOnly Idle later
  rolled : RolledBack setup branch later o.removed reply discarding result

theorem addLocked_rolledBack {guard : Guard} {s1 after : Session ω} {o : Outcome AddState}
    {events : List Event}
    (locked : (acquire setup.lockTable branch).perform host s = (.ok guard, s1))
    (start : s1.journal = [.locked guard] ++ s.journal)
    (inside : (addLocked setup (setup.workspace branch) config).perform host s1 = (o, after))
    (journal : after.journal = events ++ s.journal) (failed : o.state = .failed)
    (added : WorktreeAdded setup branch events) :
    ∃ earlier later reply discarding result, events = later ++ earlier ∧
      Retreats setup branch config host s o earlier later reply discarding result := by
  obtain ⟨asked, validating, harmless, queried⟩ :=
    ((validate_harmless config : Only (validate setup (setup.workspace branch) config).run _).and
      validate_constructive.only) host s1
  cases verdict : (validate setup (setup.workspace branch) config).run.perform host s1 with
  | mk result s2 =>
  rw [verdict, start, ← List.append_assoc] at validating
  have spares : RunsOnly (fun c => ¬ c.CreatesBranch branch) (asked ++ [.locked guard]) :=
    Composable.append (harmless.imp fun _ => And.right) (runsOnly_quiet _ nofun)
  cases result with
  | error e =>
    rw [perform_addLocked_error verdict] at inside
    cases inside
    obtain rfl := List.append_cancel_right (journal.symm.trans validating)
    exact (not_added_of_harmless spares added).elim
  | ok _ =>
  cases made : ((provision setup (setup.workspace branch) config).run.run {}).perform host s2 with
  | mk result failedIn =>
  obtain ⟨result, progress⟩ := result
  cases result with
  | ok _ =>
    rw [perform_addLocked verdict (perform_build_ok made)] at inside
    cases inside
    cases failed
  | error e =>
  cases built : (build setup (setup.workspace branch) config).perform host s2 with
  | mk outcome undone =>
  rw [perform_addLocked verdict built] at inside
  cases inside
  obtain ⟨created, earlier, later, provisioning, rolling, constructive, idle, rolls⟩ :=
    build_rolledBack made built
  obtain ⟨step, breaks⟩ := provision_breaks made
  rw [validating, ← List.append_assoc] at provisioning
  rw [rolling, provisioning, ← List.append_assoc, ← List.append_assoc] at journal
  obtain rfl := List.append_cancel_right journal
  have meanwhile : WorktreeAdded setup branch (later ++ earlier) :=
    (worktreeAdded_append.mp added).resolve_right (not_added_of_harmless spares)
  obtain ⟨reply, discarding, result, rolled⟩ := rolls meanwhile
  exact ⟨earlier ++ (asked ++ [.locked guard]), later, reply, discarding, result,
    List.append_assoc _ _ _, {
      fails := ⟨step, e, failedIn, created ▸ .making locked verdict breaks, provisioning⟩
      constructive :=
        Composable.append constructive (Composable.append queried (runsOnly_quiet (.locked guard)
          nofun))
      idle
      rolled }⟩

/-- An addition in which git added the worktree fails only later, and rolls the worktree back. -/
theorem add_rolledBack {events : List Event}
    (journal : ((add setup branch config).perform host s).2.journal = events ++ s.journal)
    (failed : ((add setup branch config).perform host s).1.state = .failed)
    (added : WorktreeAdded setup branch events) :
    ∃ earlier later reply discarding result, events = later ++ earlier ∧
      Retreats setup branch config host s ((add setup branch config).perform host s).1
        earlier later reply discarding result := by
  obtain ⟨_, start, rfl⟩ := emits_acquire setup.lockTable branch host s
  cases lock : (acquire setup.lockTable branch : Act ω _).perform host s with
  | mk guard? s1 =>
  rw [lock] at start
  cases guard? with
  | error e =>
    rw [perform_add_error lock] at journal
    obtain rfl := List.append_cancel_right (journal.symm.trans start)
    exact (not_added_of_harmless (runsOnly_quiet (.refused e) nofun) added).elim
  | ok guard =>
  cases inside : (addLocked setup (setup.workspace branch) config).perform host s1 with
  | mk o after =>
  obtain ⟨events', orderly⟩ := addLocked_orderly config lock start
  rw [inside] at orderly
  rw [perform_add lock inside] at journal failed ⊢
  change [Event.released guard] ++ after.journal = events ++ s.journal at journal
  rw [orderly.journal, ← List.append_assoc] at journal
  obtain rfl := List.append_cancel_right journal
  have meanwhile : WorktreeAdded setup branch events' :=
    (worktreeAdded_append.mp added).resolve_left
      (not_added_of_harmless (runsOnly_quiet (.released guard) nofun))
  obtain ⟨earlier, later, reply, discarding, result, rfl, retreats⟩ :=
    addLocked_rolledBack lock start inside orderly.journal failed meanwhile
  exact ⟨earlier, [.released guard] ++ later, reply, discarding, result,
    (List.append_assoc _ _ _).symm, { retreats with
      idle := Composable.append (runsOnly_quiet (.released guard) nofun) retreats.idle
      rolled := by
        have between := retreats.rolled.between (runsOnly_quiet (.released guard) nofun)
          Composable.nil
        rwa [List.append_nil] at between }⟩

/-- What the addition has done before takes no worktree away. -/
theorem Retreats.replies {earlier later discarding : List Event} {o : Outcome AddState}
    {reply : Reply} {result : Except Cause Unit} {words : List String}
    (retreats : Retreats setup branch config host s o earlier later reply discarding result)
    (takes : (setup.repository.git ("worktree" :: words)).Destructive) :
    repliesTo (setup.repository.git ("worktree" :: words)) (later ++ earlier) =
      repliesTo (setup.repository.git ("worktree" :: words)) discarding := by
  have meant : ¬ Constructive (setup.repository.git ("worktree" :: words)) :=
    fun keeps => keeps rfl takes
  rw [repliesTo_append, retreats.rolled.replies,
    Event.repliesTo_of_runsOnly retreats.constructive meant, List.append_nil]

end Lifecycle.Add

namespace Lifecycle

variable {setup : Setup} {branch : String} {config : Config} {host : Host ω} {s : Session ω}

/-- The worktree of a branch was removed by force, and no worktree counts as removed unless it is
gone. -/
def WorktreeDiscarded (setup : Setup) (branch : String) (removed : List Resource)
    (events : List Event) : Prop :=
  repliesTo (setup.repository.removal (setup.workspace branch).worktreePath) events ≠ [] ∧
    ∀ owner path, .worktree owner path ∈ removed → setup.repository.Gone path events

/-- **An addition that fails takes its worktree away exactly if git still lists it for the branch.**
The rollback asks for the worktrees once. What it tells of the worktree follows from the first one
that the listing has for the branch: if there is none, then it tells that the worktree is removed.
So, where nothing is in the way, the worktree is removed, and not told as removed without that,
exactly if that first one is the worktree that was made. -/
theorem failed_add_discards_worktree_iff {events : List Event}
    (journal : ((add setup branch config).perform host s).2.journal = events ++ s.journal)
    (failed : ((add setup branch config).perform host s).1.state = .failed)
    (added : Add.WorktreeAdded setup branch events) :
    let o := ((add setup branch config).perform host s).1
    let path := (setup.workspace branch).worktreePath
    ∃ step e failedIn earlier later listing,
      Add.Fails setup branch config host s step e o.created failedIn ∧
      failedIn.journal = earlier ++ s.journal ∧ events = later ++ earlier ∧
      RunsOnly Idle later ∧ repliesTo setup.repository.listing later = [listing] ∧
      (∀ owner other, .worktree owner other ∈ o.removed ↔ (owner = branch ∧ other = path) ∧
        setup.repository.CountsAsRemoved branch listing events) ∧
      (Repository.Undisturbed path later →
        (WorktreeDiscarded setup branch o.removed events ↔
          setup.repository.Recognizes branch path listing)) := by
  obtain ⟨earlier, later, listing, discarding, result, rfl, retreats⟩ :=
    Add.add_rolledBack journal failed added
  obtain ⟨step, e, failedIn, fails, before⟩ := retreats.fails
  obtain ⟨within, discards, replies, removed⟩ := retreats.rolled
  have removals : ∀ other, repliesTo (setup.repository.removal other) (later ++ earlier) =
      repliesTo (setup.repository.removal other) discarding :=
    fun _ => retreats.replies (by simp [Command.Destructive, Repository.git])
  have prunings : repliesTo setup.repository.pruning (later ++ earlier) =
      repliesTo setup.repository.pruning discarding :=
    retreats.replies (by simp [Command.Destructive, Repository.git])
  refine ⟨step, e, failedIn, earlier, later, listing, fails, before, rfl, retreats.idle, ?_, ?_, ?_⟩
  · rw [replies, discards.listed]
  · intro owner other
    rw [removed, discards.isOk_iff]
    simp only [Repository.CountsAsRemoved, removals, prunings]
  · intro undisturbed
    constructor
    · intro discarded
      apply discards.recognizes
      rw [← removals]
      exact discarded.1
    · intro recognized
      -- The listing alone decides that the removal is issued; that it succeeds is given.
      have smooth := undisturbed.subset within
      obtain ⟨done, issued⟩ :=
        discards.removes recognized fun looked => Bool.false_ne_true (smooth.found looked)
      have member : done ∈ repliesTo (setup.repository.removal _) discarding :=
        issued ▸ List.mem_singleton_self done
      refine ⟨by simp [removals, issued], fun owner other told => ?_⟩
      obtain ⟨⟨-, rfl⟩, -⟩ := (removed owner other).mp told
      exact ⟨done, smooth.succeeded member, .inl (removals _ ▸ member)⟩

/-- A repository with its worktrees beside it, and tmux. -/
def hooked : Setup where
  repository := { root := "repo", base := "trees" }
  mux := { kind := .tmux }
  shell := { path := "/bin/sh" }

/-- A hook that takes the worktree off its branch, and fails. -/
def switching : Config where
  postCreate := ["git switch --detach && false"]

/-- The hook fails, and the listing after that says this of what the new worktree has checked
out. -/
def hookFails (checkout : String) : Session Script where
  outside :=
    [{}, {}, { outcome := .ok { exitCode := some 1 } }, {},
      { outcome := .ok { exitCode := some 1 } }, { changes := [.makeDirectory "trees/demo"] }, {},
      { outcome := .ok { stdout := "@1 %1\n" } }, { outcome := .ok { exitCode := some 1 } },
      { outcome := .ok { stdout := "@1\ttm-demo\n" } }, {},
      { outcome := .ok { stdout := "worktree repo\nHEAD 1111111\nbranch refs/heads/main\n\n" ++
          "worktree trees/demo\nHEAD 1111111\n" ++ checkout ++ "\n\n" } }]

/-- What was done after the last hook. -/
def afterHook (events : List Event) : List Event :=
  events.takeWhile fun
    | .ran c _ => decide (c.role? ≠ some .hook)
    | _ => true

theorem subset_afterHook {later earlier : List Event} (idle : RunsOnly Idle later) :
    later ⊆ afterHook (later ++ earlier) := by
  unfold afterHook
  rw [List.takeWhile_append_of_pos]
  · exact List.subset_append_left _ _
  · intro event member
    cases event with
    | ran c reply => exact decide_eq_true ((idle c reply member).role_ne .hook)
    | _ => rfl

theorem recognized_worktree_is_discarded :
    let ended := (add hooked "demo" switching).perform Script.host
      (hookFails "branch refs/heads/demo")
    ended.1.state = .failed ∧ WorktreeDiscarded hooked "demo" ended.1.removed ended.2.journal := by
  obtain ⟨failed, added, undisturbed, recognized⟩ :
      let ended := (add hooked "demo" switching).perform Script.host
        (hookFails "branch refs/heads/demo")
      ended.1.state = .failed ∧ Add.WorktreeAdded hooked "demo" ended.2.journal ∧
        Repository.Undisturbed "trees/demo" (afterHook ended.2.journal) ∧
        ∀ listing ∈ repliesTo hooked.repository.listing ended.2.journal,
          hooked.repository.Recognizes "demo" "trees/demo" listing := by
    decide +kernel
  obtain ⟨_, _, _, earlier, later, listing, -, -, split, idle, asked, -, discards⟩ :=
    failed_add_discards_worktree_iff (List.append_nil _).symm failed added
  rw [split] at undisturbed recognized
  refine ⟨failed, (discards (undisturbed.subset (subset_afterHook idle))).mpr ?_⟩
  apply recognized
  rw [repliesTo_append, asked]
  exact List.mem_append_left _ (List.mem_singleton_self _)

/-- The listing still has the worktree, but on no branch. -/
theorem switched_worktree_is_forgotten :
    let ended := (add hooked "demo" switching).perform Script.host (hookFails "detached")
    ended.1.state = .failed ∧ Add.WorktreeAdded hooked "demo" ended.2.journal ∧
      Repository.Undisturbed "trees/demo" (afterHook ended.2.journal) ∧
      ended.2.files.pathExists "trees/demo" = true ∧
      (∀ listing ∈ repliesTo hooked.repository.listing ended.2.journal,
        hooked.repository.Lists "trees/demo" listing) ∧
      .worktree "demo" "trees/demo" ∈ ended.1.removed ∧
      repliesTo (hooked.repository.removal "trees/demo") ended.2.journal = [] ∧
      repliesTo hooked.repository.pruning ended.2.journal = [] := by
  decide +kernel

end Lifecycle

end Worktop

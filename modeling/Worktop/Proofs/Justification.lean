import Worktop.Proofs.Mux.Tmux
import Worktop.Proofs.Mux.Wezterm
import Worktop.Proofs.Warrant

/-! # Every destructive command is warranted

Each act that takes something away looks it up first, and what it runs then is warranted by that
look-up alone. So these acts are justified one by one, whoever does them and whatever was done
before (`Worktop.Multiplexer.destroyWindow_justified`, `Worktop.Repository.remove_justified`,
`Worktop.Repository.deleteBranch_justified`).
-/

namespace Worktop

open Act

variable {ω : Type} {setup : Setup} {branch : String} {adding : Prop}

/-! ## tmux -/

namespace Mux.Tmux

variable {socket : Option String}

theorem run_emits (operation : String) (c : Command) :
    Emits (run operation c : Result ω Output).run fun events result =>
      ∃ reply, events = [.ran c reply] ∧
        ∀ output, result = .ok output → reply = .ok output ∧ output.success := by
  refine (run_reads operation c).emits.mono fun events result given => ?_
  obtain ⟨reply, rfl, told⟩ := given
  exact ⟨reply, rfl, fun output same => resultOf_eq_ok (told.symm.trans same)⟩

/-- Where there are any windows of a name, their ids were listed. -/
theorem windowIds_lists (name : String) :
    Emits (windowIds socket name : Result ω (List String)).run fun events result =>
      ∀ ids, result = .ok ids → ids ≠ [] → ∃ output, output.success = true ∧
        events = [.ran (listCommand socket) (.ok output)] ∧
        ids = ((windowsOfListing output.stdout).filter (·.2 = name)).map (·.1) := by
  refine (windowIds_reads socket name).emits.mono fun events result given ids same filled => ?_
  obtain ⟨reply, rfl, told⟩ := given
  obtain ⟨windows, read, rfl⟩ := exists_of_map_eq_ok (told.symm.trans same)
  have some : windows ≠ [] := by
    rintro rfl
    exact filled rfl
  obtain ⟨output, rfl, success, rfl⟩ := windowsOf_eq_ok read some
  exact ⟨output, success, rfl, rfl⟩

/-- The ids of the windows of a name come from the listing that was asked for last. -/
theorem windowIds_emits (name : String) :
    Emits (windowIds socket name : Result ω (List String)).run fun events result =>
      ∀ ids, result = .ok ids → ∀ id ∈ ids, WindowListed events id name := by
  refine (windowIds_lists name).mono fun events result listed ids same id member => ?_
  obtain ⟨output, success, rfl, rfl⟩ := listed ids same (List.ne_nil_of_mem member)
  obtain ⟨w, kept, rfl⟩ := List.mem_map.mp member
  obtain ⟨present, named⟩ := List.mem_filter.mp kept
  obtain ⟨absent, line⟩ := listed_of_mem present
  refine ⟨output, Event.latestReply?_ran_of_asks ?_ _ _, success, absent, ?_⟩
  · exact Command.listsWindows_tmux _ _ (by decide)
  · exact of_decide_eq_true named ▸ line

theorem killWindow_warranted {before : List Event} {id : String}
    (listed : WindowListed before id (setup.workspace branch).windowName) :
    Warranted setup branch adding before (command socket ["kill-window", "-t", id]) where
  killWindow _ args same := by
    rw [Command.words_tmux _ _ (by decide)] at same
    exact ⟨id, (List.cons.inj same).2.symm, listed⟩
  killPane wezterm := absurd wezterm (by decide : ¬ "tmux" = "wezterm")
  removeWorktree git := absurd git (by decide : ¬ "tmux" = "git")
  prune git := absurd git (by decide : ¬ "tmux" = "git")
  deleteBranch git := absurd git (by decide : ¬ "tmux" = "git")

/-- Windows that are listed stay so while some of them are killed: a kill is no listing. -/
theorem WindowListed.ran_kill {before : List Event} {id name : String}
    (listed : WindowListed before id name) (victim : String) (reply : Reply) :
    WindowListed (.ran (command socket ["kill-window", "-t", victim]) reply :: before) id name := by
  obtain ⟨output, latest, rest⟩ := listed
  refine ⟨output, ?_, rest⟩
  rw [Event.latestReply?_ran_of_not_asks, latest]
  exact Command.listsWindows_tmux _ _ (by decide)

theorem killWindows_justified {ids : List String} {before : List Event}
    (listed : ∀ id ∈ ids, WindowListed before id (setup.workspace branch).windowName)
    (justified : Justified setup branch adding before) :
    Emits (killWindows socket ids : Result ω Unit).run fun new _ =>
      Justified setup branch adding (new ++ before) := by
  -- What is listed before the first kill is still the latest listing before each later one.
  induction ids generalizing before with
  | nil => exact emits_ok justified
  | cons id ids ih =>
    have killed : ∀ reply, Justified setup branch adding
        (.ran (command socket ["kill-window", "-t", id]) reply :: before) :=
      justified.ran (killWindow_warranted (listed id List.mem_cons_self))
    unfold killWindows
    refine (run_emits _ _).andThen ?_ ?_
    · intro output old given
      obtain ⟨reply, rfl, -⟩ := given
      refine (ih (fun other member => ?_) (killed reply)).mono fun new _ holds => ?_
      · exact WindowListed.ran_kill (listed other (List.mem_cons_of_mem _ member)) id reply
      · rw [List.append_assoc]
        exact holds
    · intro e old given
      obtain ⟨reply, rfl, -⟩ := given
      exact killed reply

theorem windowOfOutput?_name {name line : String} {window : Window}
    (shape : windowOfOutput? name line = some window) : window.name = name := by
  unfold windowOfOutput? at shape
  obtain ⟨⟨id, pane⟩, -, shape⟩ := Option.bind_eq_some_iff.mp shape
  dsimp only at shape
  split at shape
  · cases shape
    rfl
  · cases shape

theorem destroyWindow_justified :
    Always (destroyWindow socket (setup.workspace branch).windowName : Result ω Unit).run
      (Justified setup branch adding) := by
  have mild : Only (windowIds socket (setup.workspace branch).windowName : Result ω _).run
      fun c => ¬ c.Destructive := by
    refine (windowIds_within _ ?_).only
    simp [Command.Destructive, listCommand]
  unfold destroyWindow
  refine (mild.and (windowIds_emits _)).andThen ?_ fun _ _ first => justified_of_mild first.1
  intro ids old given
  obtain ⟨harmless, listed⟩ := given
  dsimp only
  split
  · exact emits_error (justified_of_mild harmless)
  · exact killWindows_justified (listed ids rfl) (justified_of_mild harmless)

end Mux.Tmux

/-! ## WezTerm -/

namespace Mux.Wezterm

/-- The panes come from the listing that was asked for last. -/
theorem panesIn_emits (name : String) :
    Emits (panesIn name : Result ω (List PaneEntry)).run fun events result =>
      ∀ entries, result = .ok entries →
        ∀ entry ∈ entries, PaneListed events (toString entry.pane) name := by
  refine (panesIn_reads name).emits.mono fun events result given entries same entry member => ?_
  obtain ⟨reply, rfl, told⟩ := given
  obtain ⟨all, read, rfl⟩ := exists_of_map_eq_ok (told.symm.trans same)
  obtain ⟨present, titled⟩ := List.mem_filter.mp member
  obtain ⟨output, rfl, success, parsed⟩ := panesOf_eq_ok read
  refine ⟨output, all, Event.latestReply?_ran_of_asks ?_ _ _, success, parsed, entry, present,
    of_decide_eq_true titled, rfl⟩
  exact Command.listsPanes_wezterm _ _

theorem killPane_warranted {before : List Event} {pane : String}
    (reason : PaneListed before pane (setup.workspace branch).windowName ∨
      adding ∧ PaneSpawned setup branch before pane) :
    Warranted setup branch adding before (command ["kill-pane", "--pane-id", pane]) where
  killPane _ args same := by
    rw [Command.words_wezterm] at same
    exact ⟨pane, (List.cons.inj same).2.symm, reason⟩
  killWindow tmux := absurd tmux (by decide : ¬ "wezterm" = "tmux")
  removeWorktree git := absurd git (by decide : ¬ "wezterm" = "git")
  prune git := absurd git (by decide : ¬ "wezterm" = "git")
  deleteBranch git := absurd git (by decide : ¬ "wezterm" = "git")

/-- A pane that may be killed is killed by a command that is warranted. -/
theorem killPane_justified {before : List Event} {pane : String}
    (reason : PaneListed before pane (setup.workspace branch).windowName ∨
      adding ∧ PaneSpawned setup branch before pane)
    (justified : Justified setup branch adding before) :
    Emits (killPane pane : Result ω Unit).run fun new _ =>
      (∃ reply, new = [.ran (command ["kill-pane", "--pane-id", pane]) reply]) ∧
        Justified setup branch adding (new ++ before) := by
  have killed : ∀ reply, Justified setup branch adding
      (.ran (command ["kill-pane", "--pane-id", pane]) reply :: before) :=
    justified.ran (killPane_warranted reason)
  unfold killPane
  refine (run_emits _ _).andThen ?_ ?_
  · intro output old given
    obtain ⟨reply, rfl, -⟩ := given
    exact emits_ok ⟨⟨reply, rfl⟩, killed reply⟩
  · intro e old given
    obtain ⟨reply, rfl, -⟩ := given
    exact ⟨⟨reply, rfl⟩, killed reply⟩

/-- Panes that are listed stay so while some of them are killed: a kill is no listing. -/
theorem PaneListed.ran_kill {before : List Event} {pane title : String}
    (listed : PaneListed before pane title) (victim : String) (reply : Reply) :
    PaneListed (.ran (command ["kill-pane", "--pane-id", victim]) reply :: before) pane title := by
  obtain ⟨output, entries, latest, rest⟩ := listed
  refine ⟨output, entries, ?_, rest⟩
  rw [Event.latestReply?_ran_of_not_asks, latest]
  exact Command.listsPanes_wezterm _ _

theorem killPanes_justified {entries : List PaneEntry} {before : List Event}
    (listed : ∀ entry ∈ entries,
      PaneListed before (toString entry.pane) (setup.workspace branch).windowName)
    (justified : Justified setup branch adding before) :
    Emits (killPanes entries : Result ω Unit).run fun new _ =>
      Justified setup branch adding (new ++ before) := by
  induction entries generalizing before with
  | nil => exact emits_ok justified
  | cons entry entries ih =>
    unfold killPanes
    refine (killPane_justified (.inl (listed entry List.mem_cons_self)) justified).andThen ?_ ?_
    · intro _ old given
      obtain ⟨⟨reply, rfl⟩, killed⟩ := given
      refine (ih (fun other member => ?_) killed).mono fun new _ holds => ?_
      · exact PaneListed.ran_kill (listed other (List.mem_cons_of_mem _ member)) _ reply
      · rw [List.append_assoc]
        exact holds
    · intro e old given
      obtain ⟨-, killed⟩ := given
      exact killed

theorem destroyWindow_justified :
    Always (destroyWindow (setup.workspace branch).windowName : Result ω Unit).run
      (Justified setup branch adding) := by
  have mild : Only (panesIn (setup.workspace branch).windowName : Result ω _).run
      fun c => ¬ c.Destructive :=
    (panesIn_within _ (mild_of_verb _ (by decide))).only
  unfold destroyWindow
  refine (mild.and (panesIn_emits _)).andThen ?_ fun _ _ first => justified_of_mild first.1
  intro entries old given
  obtain ⟨harmless, listed⟩ := given
  dsimp only
  split
  · exact emits_error (justified_of_mild harmless)
  · exact killPanes_justified (listed entries rfl) (justified_of_mild harmless)

/-- A pane that was just spawned is killed where its tab gets no title, and this is all. -/
theorem createWindow_justified (added : adding) :
    Always (createWindow (setup.workspace branch).windowName (setup.workspace branch).worktreePath :
      Result ω Window).run (Justified setup branch adding) := by
  refine (createWindow_created _ _).mono fun events result created => ?_
  cases created with
  | unspawned first e => exact justified_of_mild (runsOnly_ran (mild_of_verb _ (by decide)) first)
  | unnamed none first e => exact justified_of_mild (spawning_harmless _ first)
  | kept named titled first => exact justified_of_mild (titled.harmless _ first)
  | killed named untitled first last =>
    have spawned : PaneSpawned setup branch _ _ := (untitled.spawned_append first).mpr named
    exact (justified_of_mild (untitled.harmless _ first)).ran
      (killPane_warranted (.inr ⟨added, spawned⟩)) last

end Mux.Wezterm

/-! ## Either multiplexer -/

namespace Multiplexer

theorem destroyWindow_justified :
    Always (setup.mux.destroyWindow (setup.workspace branch).windowName : Mux.Result ω Unit).run
      (Justified setup branch adding) := by
  unfold destroyWindow
  cases setup.mux.kind with
  | tmux => exact Mux.Tmux.destroyWindow_justified
  | wezterm => exact Mux.Wezterm.destroyWindow_justified

theorem createWindow_justified (added : adding) (env : Environment) :
    Always (setup.mux.createWindow (setup.workspace branch).windowName
      (setup.workspace branch).worktreePath env : Mux.Result ω Mux.Window).run
      (Justified setup branch adding) := by
  unfold createWindow
  cases setup.mux.kind with
  | tmux =>
    have mild : Only (Mux.Tmux.createWindow setup.mux.socket (setup.workspace branch).windowName
        (setup.workspace branch).worktreePath env : Mux.Result ω Mux.Window).run
        fun c => ¬ c.Destructive := by
      refine (Mux.Tmux.createWindow_within _ _ _ ?_ fun rest => ?_).only
      · simp [Command.Destructive, Mux.Tmux.listCommand]
      · simp [Command.Destructive]
    exact mild.mono fun _ _ harmless => justified_of_mild harmless
  | wezterm => exact Mux.Wezterm.createWindow_justified added

/-- A new window has the name that was asked for. -/
theorem createWindow_name (m : Multiplexer) (name directory : String) (env : Environment) :
    Gives (m.createWindow name directory env : Mux.Result ω Mux.Window).run fun result =>
      ∀ window, result = .ok window → window.name = name := by
  unfold createWindow
  cases m.kind with
  | tmux =>
    unfold Mux.Tmux.createWindow
    refine gives_andThen (fun ids => ?_) fun _ _ same => by cases same
    dsimp only
    split
    · exact gives_error fun _ same => by cases same
    · refine gives_andThen (fun output => ?_) fun _ _ same => by cases same
      split
      · rename_i window shape
        apply gives_ok
        intro _ same
        cases same
        exact Mux.Tmux.windowOfOutput?_name shape
      · exact gives_error fun _ same => by cases same
  | wezterm =>
    unfold Mux.Wezterm.createWindow
    refine gives_andThen (fun entries => ?_) fun _ _ same => by cases same
    dsimp only
    split
    · exact gives_error fun _ same => by cases same
    · refine gives_andThen (fun output => ?_) fun _ _ same => by cases same
      refine gives_andThen (fun pane => ?_) fun _ _ same => by cases same
      refine gives_andThen (fun id => ?_) fun _ _ same => by cases same
      exact gives_ok fun _ same => by cases same; rfl

end Multiplexer

/-! ## git -/

namespace Repository

variable {r : Repository}

theorem mild_of_words {directory : String} {args : List String}
    (remains : args.take 2 ≠ ["worktree", "remove"]) (kept : args.take 2 ≠ ["worktree", "prune"])
    (plain : args.head? ≠ some "branch") : ¬ (Worktree.git directory args).Destructive := by
  simp [Command.Destructive, remains, kept, plain]

theorem findWorktree_mild (name : String) :
    Only (r.findWorktree name : Worktree.Result ω _).run fun c => ¬ c.Destructive :=
  (findWorktree_within name (mild_of_words (by decide) (by decide) (by decide))).only

theorem branchExists_mild (name : String) :
    Only (r.branchExists name : Worktree.Result ω Bool).run fun c => ¬ c.Destructive :=
  (branchExists_within (mild_of_words (by simp) (by simp) (by simp))).only

/-- The worktree that is found is the one to remove, unless it is the main one. -/
theorem findWorktree_emits :
    Emits (r.findWorktree branch : Worktree.Result ω _).run fun events result =>
      ∀ entry, result = .ok (some entry) → entry.isMain = false →
        WorktreeListed events branch entry := by
  unfold findWorktree
  refine list_emits.andThen ?_ fun _ _ _ _ same => by cases same
  intro entries old given
  obtain ⟨reply, rfl, told⟩ := given
  obtain ⟨output, rfl, success, rfl⟩ := entriesOfReply_ok told
  apply emits_ok
  intro entry same other
  have found := Except.ok.inj same
  rcases Worktree.entriesOfListing_shape output.stdout with empty | ⟨main, others, shape, isMain, -⟩
  · rw [empty] at found
    cases found
  · rw [shape, List.find?_cons] at found
    split at found
    · cases found
      rw [isMain] at other
      cases other
    · rename_i elsewhere
      refine ⟨output, main, others, Event.latestReply?_ran_of_asks ?_ _ _, success, shape,
        of_decide_eq_false elsewhere, found⟩
      exact Command.listsWorktrees_git _ _

/-- A command that is warranted is run, and nothing after it. -/
theorem exec_justified {c : Command} {f : Output → Worktree.Result ω Unit} {before : List Event}
    (warranted : Warranted setup branch adding before c)
    (justified : Justified setup branch adding before)
    (last : ∀ output, Emits (f output).run fun new _ => new = []) :
    Emits (Worktree.exec c >>= f).run fun new _ =>
      Justified setup branch adding (new ++ before) := by
  have after : ∀ reply, Justified setup branch adding (.ran c reply :: before) :=
    justified.ran warranted
  refine (Worktree.exec_emits c).andThen ?_ ?_
  · intro output old given
    obtain ⟨reply, rfl, -⟩ := given
    apply (last output).mono
    intro new _ silent
    rw [silent]
    exact after reply
  · intro e old given
    obtain ⟨reply, rfl, -⟩ := given
    exact after reply

theorem removeWorktree_warranted {before : List Event} {entry : Worktree.Entry}
    {flags : List String} (known : flags = [] ∨ flags = ["--force"])
    (listed : WorktreeListed before branch entry) :
    Warranted setup branch adding before
      (r.git (["worktree", "remove"] ++ flags ++ [entry.path])) where
  removeWorktree _ args same := by
    rw [git, Command.words_git] at same
    refine ⟨entry, ?_, listed⟩
    rcases known with rfl | rfl
    · exact .inl (by simpa using same.symm)
    · exact .inr (by simpa using same.symm)
  killWindow tmux := absurd tmux (by decide : ¬ "git" = "tmux")
  killPane wezterm := absurd wezterm (by decide : ¬ "git" = "wezterm")
  prune _ args same := by
    rw [git, Command.words_git] at same
    simp at same
  deleteBranch _ args same := by
    rw [git, Command.words_git] at same
    simp at same

theorem prune_warranted {before : List Event} {entry : Worktree.Entry}
    (listed : WorktreeListed before branch entry) :
    Warranted setup branch adding (.looked entry.path false :: before)
      (r.git ["worktree", "prune"]) where
  prune _ args same := ⟨entry, before, rfl, listed.looked _ _⟩
  killWindow tmux := absurd tmux (by decide : ¬ "git" = "tmux")
  killPane wezterm := absurd wezterm (by decide : ¬ "git" = "wezterm")
  removeWorktree _ args same := by
    rw [git, Command.words_git] at same
    simp at same
  deleteBranch _ args same := by
    rw [git, Command.words_git] at same
    simp at same

theorem prune_justified {before : List Event} {entry : Worktree.Entry}
    (listed : WorktreeListed before branch entry)
    (justified : Justified setup branch adding before) :
    Emits (r.prune : Worktree.Result ω Unit).run fun new _ =>
      Justified setup branch adding (new ++ .looked entry.path false :: before) := by
  unfold prune
  apply exec_justified (prune_warranted listed) (justified.looked _ _)
  intro output
  split
  · exact emits_error rfl
  · exact emits_ok rfl

theorem deleteBranch_warranted {before : List Event} {flag : String}
    (known : flag = "-D" ∨ flag = "-d") (shown : BranchShown before branch) :
    Warranted setup branch adding before (r.git ["branch", flag, branch]) where
  deleteBranch _ args same := by
    rw [git, Command.words_git] at same
    refine ⟨?_, shown⟩
    rcases known with rfl | rfl
    · exact .inr (by simpa using same.symm)
    · exact .inl (by simpa using same.symm)
  killWindow tmux := absurd tmux (by decide : ¬ "git" = "tmux")
  killPane wezterm := absurd wezterm (by decide : ¬ "git" = "wezterm")
  removeWorktree _ args same := by
    rw [git, Command.words_git] at same
    simp at same
  prune _ args same := by
    rw [git, Command.words_git] at same
    simp at same

theorem remove_justified (force : Bool) :
    Always (r.remove branch force : Worktree.Result ω Unit).run
      (Justified setup branch adding) := by
  unfold remove
  refine ((findWorktree_mild branch).and findWorktree_emits).andThen ?_
    fun _ _ first => justified_of_mild first.1
  intro entry? old given
  obtain ⟨harmless, found⟩ := given
  have earlier : Justified setup branch adding old := justified_of_mild harmless
  cases entry? with
  | none => exact emits_error earlier
  | some entry =>
    dsimp only
    split
    · rw [throw_bind]
      exact emits_error earlier
    · rename_i other
      have listed := found entry rfl (Bool.eq_false_iff.mpr other)
      apply emits_look
      intro there
      cases there with
      | true =>
        refine (exec_justified ?_ (earlier.looked entry.path true) fun output => ?_).mono ?_
        · refine removeWorktree_warranted ?_ (listed.looked _ _)
          cases force with
          | true => exact .inr rfl
          | false => exact .inl rfl
        · split
          · exact emits_error rfl
          · exact emits_ok rfl
        · intro new _ holds
          rw [List.append_assoc]
          exact holds
      | false =>
        apply (prune_justified listed earlier).mono
        intro new _ holds
        rw [List.append_assoc]
        exact holds

theorem deleteBranch_justified (force : Bool) :
    Always (r.deleteBranch branch force : Worktree.Result ω Unit).run
      (Justified setup branch adding) := by
  unfold deleteBranch
  refine ((branchExists_mild branch).and (branchExists_emits branch)).andThen ?_
    fun _ _ first => justified_of_mild first.1
  intro found old given
  obtain ⟨harmless, reply, rfl, told⟩ := given
  have earlier : Justified setup branch adding _ := justified_of_mild harmless
  dsimp only
  split
  · rw [throw_bind]
    exact emits_error earlier
  · rename_i shown
    obtain ⟨output, rfl, success⟩ := branchExists_ok told
    have there : BranchShown [.ran (r.git ["show-ref", "--quiet", "--verify",
        "refs/heads/" ++ branch]) (.ok output)] branch :=
      ⟨_, output, [], rfl, by rw [success]; simpa using shown, rfl, Command.words_git _ _⟩
    refine exec_justified (deleteBranch_warranted ?_ there) earlier fun output => ?_
    · cases force with
      | true => exact .inl rfl
      | false => exact .inr rfl
    · split
      · split
        · exact emits_error rfl
        · exact emits_error rfl
      · exact emits_ok rfl

end Repository

end Worktop

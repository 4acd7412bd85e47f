import Worktop.Proofs.Commands
import Worktop.Proofs.Worktree.Listing

/-! # A world of branches, worktrees and windows

What git, tmux and the hooks stand for: a repository's branches and worktrees, the windows of tmux
and their panes. `Worktop.World.host` answers commands from such a world, and keeps the directories
of worktrees among the files. What may go wrong is up to a course (`Worktop.Turn`), one turn for
each command: git may fail to add a worktree, also half way, and a window, a pane or a hook may come
to nothing. Queries work, and so do the commands that take something away, where there is something
to take. A path means the same to git as to everyone else.
-/

namespace Worktop

/-- A worktree that git has registered. -/
structure Registration where
  path : String
  head : Option String := none
  branch : Option String := none
  deriving DecidableEq, Repr

/-- A window of tmux. -/
structure OpenWindow where
  id : String
  name : String
  panes : List String
  deriving DecidableEq, Repr

open Text (OneLine SingleLine)

/-- Branches, worktrees and windows. The server of tmux may stay where there is no window; `takes`
says which names git takes for branches. -/
structure World where
  branches : List String := []
  main : Registration
  linked : List Registration := []
  windows : List OpenWindow := []
  stays : Bool := true
  takes : String → Bool := fun name => decide (SingleLine name)

/-- What may become of a command, if it is one that may fail: how it fails, whether a branch is left
of a worktree that is not added, the ids of a new window and a new pane, and what a hook does to the
files. -/
structure Turn where
  refusal : Option (Except SystemError Output) := none
  half : Bool := false
  window : String := "@0"
  pane : String := "%0"
  change : FileSystem → FileSystem := id

/-- What is asked of git, tmux and the shell. -/
inductive Request where
  | showRef (branch : String)
  | checkName (name : String)
  | listWorktrees
  | addWorktree (branch path : String)
  | removeWorktree (path : String)
  | prune
  | deleteBranch (name : String)
  | listSessions
  | listWindows
  | newWindow (name : String)
  | splitWindow (pane : String)
  | listPanes (window : String)
  | sendKeys (pane : String)
  | killWindow (id : String)
  | hook
  | unknown
  deriving DecidableEq, Repr

namespace Request

/-- What a command asks of git. -/
def ofGit : List String → Request
  | ["show-ref", "--quiet", "--verify", ref] =>
    .showRef ((Text.dropLead? "refs/heads/" ref).getD ref)
  | ["check-ref-format", "--branch", name] => .checkName name
  | ["worktree", "list", "--porcelain"] => .listWorktrees
  | ["worktree", "add", "-b", branch, path] => .addWorktree branch path
  | ["worktree", "remove", path] => .removeWorktree path
  | ["worktree", "remove", "--force", path] => .removeWorktree path
  | ["worktree", "prune"] => .prune
  | ["branch", "-d", name] => .deleteBranch name
  | ["branch", "-D", name] => .deleteBranch name
  | _ => .unknown

/-- What a command asks of tmux. -/
def ofTmux : List String → Request
  | "list-sessions" :: _ => .listSessions
  | "list-windows" :: _ => .listWindows
  | "new-window" :: "-P" :: "-F" :: _ :: "-n" :: name :: _ => .newWindow name
  | "split-window" :: _ :: "-t" :: pane :: _ => .splitWindow pane
  | "list-panes" :: "-t" :: window :: _ => .listPanes window
  | "send-keys" :: "-t" :: pane :: _ => .sendKeys pane
  | ["kill-window", "-t", id] => .killWindow id
  | _ => .unknown

/-- What a command asks for. -/
def ofCommand (c : Command) : Request :=
  if c.program = "git" then ofGit c.words
  else if c.program = "tmux" then ofTmux c.words
  else if c.program = "/bin/sh" then .hook
  else .unknown

end Request

/-- The answer of a command that ran. -/
abbrev Answer := Except SystemError Output

namespace Answer

/-- Success, with what is printed. -/
def done (stdout : String := "") : Answer :=
  .ok { stdout }

/-- A failure, with a complaint. -/
def failed (stderr : String) : Answer :=
  .ok { stderr, exitCode := some 1 }

/-- A yes or no by the exit code. -/
def verdict (holds : Bool) : Answer :=
  .ok { exitCode := some (if holds then 0 else 1) }

/-- The command was started and succeeded. -/
def succeeded : Answer → Bool
  | .error _ => false
  | .ok output => output.success

/-- An answer that is no success, whatever it was. -/
def unsuccessful : Answer → Answer
  | .error e => .error e
  | .ok output => .ok (if output.success then { output with exitCode := none } else output)

/-- An answer that does not complain of a branch. -/
def silenced : Answer → Answer
  | .error e => .error e
  | .ok output =>
    if Text.occurs "a branch named" output.complaint &&
        Text.occurs "already exists" output.complaint then
      .ok { output with stderr := "" }
    else .ok output

@[simp] theorem succeeded_failed (stderr : String) : (failed stderr).succeeded = false := rfl

@[simp] theorem succeeded_unsuccessful (answer : Answer) :
    answer.unsuccessful.succeeded = false := by
  cases answer with
  | error e => rfl
  | ok output =>
    by_cases succeeds : output.success = true
    · simp only [unsuccessful, succeeded, succeeds, ↓reduceIte]
      rfl
    · simp [unsuccessful, succeeded, succeeds]

@[simp] theorem succeeded_silenced (answer : Answer) :
    answer.silenced.succeeded = answer.succeeded := by
  cases answer with
  | error e => rfl
  | ok output =>
    unfold silenced
    dsimp only
    split <;> rfl

end Answer

/-- How the command of a turn fails, if it does. -/
def Turn.failure? (turn : Turn) : Option Answer :=
  turn.refusal.map Answer.unsuccessful

theorem Turn.not_succeeded {turn : Turn} {failure : Answer} (fails : turn.failure? = some failure) :
    failure.succeeded = false := by
  obtain ⟨answer, -, rfl⟩ := Option.map_eq_some_iff.mp fails
  exact Answer.succeeded_unsuccessful answer

namespace World

/-- All worktrees, the main one first. -/
def registrations (w : World) : List Registration :=
  w.main :: w.linked

/-- The world with one more branch. -/
def withBranch (w : World) (branch : String) : World :=
  { w with branches := w.branches ++ [branch] }

/-- The world with a new branch and a worktree for it. -/
def withWorktree (w : World) (branch path : String) : World :=
  { w.withBranch branch with
    linked := w.linked ++ [{ path, head := w.main.head, branch := some branch }] }

/-- The world with one more window. -/
def withWindow (w : World) (window : OpenWindow) : World :=
  { w with windows := w.windows ++ [window] }

/-- The entry of a worktree in a listing; the one whose directory is gone can be pruned. -/
def entryOf (fs : FileSystem) (reg : Registration) : Worktree.Entry where
  path := reg.path
  head := reg.head
  branch := reg.branch
  prunable := !fs.pathExists reg.path

/-- The listing of the worktrees. -/
def worktreeListing (w : World) (fs : FileSystem) : String :=
  Worktree.Listing.print (w.registrations.map (entryOf fs))

/-- Whether the server of tmux runs. -/
def running (w : World) : Bool :=
  w.stays || !w.windows.isEmpty

/-- The listing of the windows, a line for each. -/
def windowListing (w : World) : String :=
  Text.unlines (w.windows.map fun window => window.id ++ "\t" ++ window.name)

/-- A text is the id of something: a mark and no blank after it. -/
def isId (mark : Char) (id : String) : Bool :=
  id.toList.head? = some mark && id.toList.all (!Text.isBlank ·)

/-- A window id that is not taken. -/
def freshWindow (w : World) (id : String) : Bool :=
  isId '@' id && w.windows.all (·.id ≠ id)

/-- A pane id that is not taken. -/
def freshPane (w : World) (id : String) : Bool :=
  isId '%' id && w.windows.all (id ∉ ·.panes)

/-- The place for a new worktree, if there is room for it at the path. -/
def room? (w : World) (fs : FileSystem) (path : String) : Option (List String) :=
  match fs.locate path with
  | .error _ => none
  | .ok place =>
    if (fs.node? place).isNone && w.registrations.all (·.path ≠ path) then some place else none

/-- A branch is made, and a worktree for it at a place. -/
def addWorktree (w : World) (turn : Turn) (fs : FileSystem) (branch path : String) :
    Answer × World × FileSystem :=
  if branch ∈ w.branches then
    (.failed ("fatal: a branch named '" ++ branch ++ "' already exists"), w, fs)
  else
    match turn.failure?, w.room? fs path with
    | none, some place =>
      (.done, w.withWorktree branch path, fs.put place .directory)
    | refusal, _ =>
      ((refusal.getD (.failed ("fatal: could not create '" ++ path ++ "'"))).silenced,
        if turn.half then w.withBranch branch else w, fs)

/-- A worktree is forgotten, and its directory removed. -/
def removeWorktree (w : World) (fs : FileSystem) (path : String) : Answer × World × FileSystem :=
  match fs.remove path with
  | .ok fs' =>
    if w.linked.any (·.path = path) then
      (.done, { w with linked := w.linked.filter (·.path ≠ path) }, fs')
    else (.failed ("fatal: '" ++ path ++ "' is not a working tree"), w, fs)
  | .error _ => (.failed ("fatal: '" ++ path ++ "' does not exist"), w, fs)

/-- A branch is deleted, unless it is checked out. -/
def deleteBranch (w : World) (name : String) : Answer × World :=
  if w.registrations.any (·.branch = some name) then
    (.failed ("error: cannot delete branch '" ++ name ++ "' used by worktree"), w)
  else if name ∈ w.branches then
    (.done ("Deleted branch " ++ name ++ ".\n"),
      { w with branches := w.branches.filter (· ≠ name) })
  else (.failed ("error: branch '" ++ name ++ "' not found"), w)

/-- A window is made with one pane. -/
def newWindow (w : World) (turn : Turn) (name : String) : Answer × World :=
  match turn.failure? with
  | some failure => (failure, w)
  | none =>
    if w.freshWindow turn.window && w.freshPane turn.pane then
      (.done (turn.window ++ " " ++ turn.pane ++ "\n"),
        w.withWindow { id := turn.window, name, panes := [turn.pane] })
    else (.failed "create window failed", w)

/-- The world with one more pane in the window of another one. -/
def withPane (w : World) (pane new : String) : World :=
  { w with
    windows := w.windows.map fun window =>
      if pane ∈ window.panes then { window with panes := window.panes ++ [new] } else window }

/-- A pane is made beside another one. -/
def splitWindow (w : World) (turn : Turn) (pane : String) : Answer × World :=
  match turn.failure? with
  | some failure => (failure, w)
  | none =>
    if w.windows.any (pane ∈ ·.panes) && w.freshPane turn.pane then
      (.done (turn.pane ++ "\n"), w.withPane pane turn.pane)
    else (.failed ("can't find pane: " ++ pane), w)

/-- The windows of an id are killed. -/
def killWindow (w : World) (id : String) : Answer × World :=
  if w.windows.any (·.id = id) then (.done, { w with windows := w.windows.filter (·.id ≠ id) })
  else (.failed ("can't find window: " ++ id), w)

/-- What a hook makes of the files. One that would touch the directory of a worktree does
nothing. -/
def hooked (w : World) (turn : Turn) (fs : FileSystem) : FileSystem :=
  let changed := { turn.change fs with here := fs.here }
  if w.registrations.all fun reg => changed.pathExists reg.path == fs.pathExists reg.path then
    changed
  else fs

/-- The answer to a request, and what becomes of the world and the files. -/
def respond (w : World) (turn : Turn) (fs : FileSystem) :
    Request → Answer × World × FileSystem
  | .showRef branch => (.verdict (branch ∈ w.branches), w, fs)
  | .checkName name => (.verdict (w.takes name), w, fs)
  | .listWorktrees => (.done (w.worktreeListing fs), w, fs)
  | .addWorktree branch path => w.addWorktree turn fs branch path
  | .removeWorktree path => w.removeWorktree fs path
  | .prune => (.done, { w with linked := w.linked.filter (fs.pathExists ·.path) }, fs)
  | .deleteBranch name => let (answer, w) := w.deleteBranch name; (answer, w, fs)
  | .listSessions => (.verdict w.running, w, fs)
  | .listWindows =>
    (if w.running then .done w.windowListing else .failed "no server running on /tmp/tmux", w, fs)
  | .newWindow name => let (answer, w) := w.newWindow turn name; (answer, w, fs)
  | .splitWindow pane => let (answer, w) := w.splitWindow turn pane; (answer, w, fs)
  | .listPanes window =>
    (turn.failure?.getD
      (.done (Text.unlines ((w.windows.filter (·.id = window)).flatMap (·.panes)))), w, fs)
  | .sendKeys _ => (turn.failure?.getD .done, w, fs)
  | .killWindow id => let (answer, w) := w.killWindow id; (answer, w, fs)
  | .hook => (turn.failure?.getD .done, w, w.hooked turn fs)
  | .unknown => (.failed "unknown command", w, fs)

/-- What can be asked of any world of git and tmux: paths, commits and branches are printed on lines
of their own and do not end in a blank, no two worktrees share a path, and no two windows an id;
tmux lists a window on one line. -/
structure Sound (w : World) : Prop where
  paths : ∀ reg ∈ w.registrations, SingleLine reg.path
  heads : ∀ reg ∈ w.registrations, ∀ head ∈ reg.head, SingleLine head
  checkouts : ∀ reg ∈ w.registrations, ∀ name ∈ reg.branch, SingleLine name
  distinctPaths : (w.registrations.map (·.path)).Nodup
  ids : ∀ window ∈ w.windows, isId '@' window.id = true
  distinctIds : (w.windows.map (·.id)).Nodup
  names : ∀ window ∈ w.windows, OneLine window.name
  takes : ∀ name, w.takes name = true → SingleLine name

/-- A world, and how many commands it has answered. -/
structure Scene where
  world : World
  answered : Nat := 0

/-- The host that answers from a world, as a course goes. -/
def host (course : Nat → Turn) : Host Scene where
  answer c scene fs :=
    let (answer, world, fs) := scene.world.respond (course scene.answered) fs (.ofCommand c)
    (answer, { world, answered := scene.answered + 1 }, fs)

end World

end Worktop

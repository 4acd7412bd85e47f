import Worktop.Branch.Handle
import Worktop.Cli.Arguments
import Worktop.Cli.Help
import Worktop.Cli.Run
import Worktop.Cli.Terminal
import Worktop.Command
import Worktop.Config.Basic
import Worktop.Config.Reader
import Worktop.Digest.Sha256
import Worktop.Environment
import Worktop.FileSystem.Basic
import Worktop.FileSystem.Change
import Worktop.FileSystem.Edit
import Worktop.FileSystem.Error
import Worktop.Hook
import Worktop.Json.Reader
import Worktop.Json.Value
import Worktop.Json.Writer
import Worktop.Launch
import Worktop.Lifecycle.Add
import Worktop.Lifecycle.Basic
import Worktop.Lifecycle.Overview
import Worktop.Lifecycle.Remove
import Worktop.Lock
import Worktop.Main
import Worktop.Mux.Basic
import Worktop.Mux.Multiplexer
import Worktop.Mux.PaneList
import Worktop.Mux.Tmux
import Worktop.Mux.Wezterm
import Worktop.Path
import Worktop.Poll
import Worktop.Rehearsal
import Worktop.Session
import Worktop.Shell.Arithmetic
import Worktop.Shell.Field
import Worktop.Shell.Format
import Worktop.Shell.Interpreter
import Worktop.Shell.Login
import Worktop.Shell.Machine
import Worktop.Shell.Pattern
import Worktop.Shell.Program
import Worktop.Shell.Quoting
import Worktop.Shell.Test
import Worktop.Shell.Token
import Worktop.Shell.Utility
import Worktop.Shell.Word
import Worktop.Stage
import Worktop.Text.Blank
import Worktop.Text.Lines
import Worktop.Text.Numeral
import Worktop.Text.Quoted
import Worktop.Text.Reader
import Worktop.Text.Unicode
import Worktop.Text.Utf8
import Worktop.Toml.Document
import Worktop.Toml.Line
import Worktop.Toml.Moment
import Worktop.Toml.Number
import Worktop.Toml.Text
import Worktop.Toml.Value
import Worktop.Workspace
import Worktop.Worktree.Listing
import Worktop.Worktree.Repository
import Worktop.Proofs.Asking
import Worktop.Proofs.Commands
import Worktop.Proofs.Path
import Worktop.Proofs.Text.Lines
import Worktop.Proofs.Worktree.Stanza
import Worktop.Proofs.Worktree.Listing
import Worktop.Proofs.Worktree.Porcelain
import Worktop.Proofs.Warrant
import Worktop.Proofs.Mux.Tmux
import Worktop.Proofs.Mux.Wezterm
import Worktop.Proofs.Queries
import Worktop.Proofs.InTurn
import Worktop.Proofs.HookSequence
import Worktop.Proofs.Worktree.Making
import Worktop.Proofs.Justification
import Worktop.Proofs.BlastRadius
import Worktop.Proofs.ForcedDeletion
import Worktop.Proofs.Course
import Worktop.Proofs.FileSystem
import Worktop.Proofs.Answers
import Worktop.Proofs.Teardown
import Worktop.Proofs.Convergence
import Worktop.Proofs.Branch.Handle
import Worktop.Proofs.Creation
import Worktop.Proofs.Rollback
import Worktop.Proofs.AllOrNothing
import Worktop.Proofs.Attempts
import Worktop.Proofs.Accounting
import Worktop.Proofs.Shell.Reading
import Worktop.Proofs.Shell.Scan
import Worktop.Proofs.Shell.LastLine
import Worktop.Proofs.Custody
import Worktop.Proofs.Bracket
import Worktop.Proofs.LockTraces
import Worktop.Proofs.Rejection
import Worktop.Proofs.Removal
import Worktop.Proofs.Force
import Worktop.Proofs.Histories
import Worktop.Proofs.Roles
import Worktop.Proofs.Timely
import Worktop.Proofs.PhaseOrder
import Worktop.Proofs.Layout
import Worktop.Proofs.Delivery
import Worktop.Proofs.Mux.Destruction
import Worktop.Proofs.Mux.Agreement
import Worktop.Proofs.Variables
import Worktop.Proofs.Undoing
import Worktop.Proofs.Worktree.Lookup
import Worktop.Proofs.Cli.Consent
import Worktop.Proofs.MainWorktree
import Worktop.Proofs.Branch.Collision
import Worktop.Proofs.Branch.Containment
import Worktop.Proofs.Polling
import Worktop.Proofs.Text.Numeral
import Worktop.Proofs.Text.Utf8
import Worktop.Proofs.HookOutput
import Worktop.Proofs.Mux.WindowListing
import Worktop.Proofs.Mux.PaneNames
import Worktop.Proofs.Overview

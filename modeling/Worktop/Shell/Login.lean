import Worktop.Mux.Basic
import Worktop.Shell.Quoting

/-!
# Login shells of panes

The text typed into a pane makes its shell give way to a login shell that runs a command and then
gives way to another login shell.
-/

namespace Worktop

/-- The shell that panes run. -/
structure LoginShell where
  path : String
  deriving DecidableEq, Repr

namespace LoginShell

/-- The shell to use: the configured one, else that of the multiplexer, else `SHELL`, else
`/bin/sh`.  Blank ones do not count. -/
def resolve (configured ofMux : Option String) (env : Environment) : LoginShell :=
  let filled (s : String) : Bool := !Text.isBlankText s
  let path? := ((configured.map Text.trim).filter filled).or
    ((ofMux.filter filled).or (env.filled? "SHELL"))
  { path := path?.getD "/bin/sh" }

/-- What the first login shell runs: the command, then the login shell that stays.  They stand on
lines of their own, so that a comment or an ampersand at the end of the command ends with it. -/
def script (shell : LoginShell) (command : String) : String :=
  Text.trim command ++ "\nexec " ++ Shell.quote shell.path ++ " -l"

/-- Assignments in front of a command. -/
def assignments (env : Environment) : String :=
  env.foldr (fun v rest => v.1 ++ "=" ++ Shell.quote v.2 ++ " " ++ rest) ""

/-- The text that starts a command in a pane.  Variables that the multiplexer could not hand to the
pane go into the text. -/
def launchText (shell : LoginShell) (command : String) (caps : Mux.Capabilities)
    (env : Environment) : String :=
  let settings := if !caps.paneEnv && !env.isEmpty then "env " ++ assignments env else ""
  "exec " ++ settings ++ Shell.quote shell.path ++ " -l -c " ++
    Shell.singleQuote (shell.script command)

end LoginShell

end Worktop

import SandboxShell.Shell.Kind
import SandboxShell.Environ.Basic

/-!
The profile of a user's shell: what it is, where it keeps its startup file, and which commands a
session runs besides. The environment tells the shell by `SHELL`, and the startup file by `HOME` or
`ENV`.
-/

namespace SandboxShell

/-- A user's shell. An empty `startupPath` says that the place of its startup file is not known, and
no `planHook` that a hook has been asked for and its text is missing. -/
structure ShellProfile where
  kind : ShellKind
  program : Path
  startupPath : Path := []
  planHook : Option Text := some []
  userHook : Text := []
  deriving DecidableEq, Repr

inductive HookSetting where
  | plan (hook : Option Text)
  | user (hook : Text)
  deriving DecidableEq, Repr

namespace ShellProfile

def set (p : ShellProfile) : HookSetting → ShellProfile
  | .plan hook => { p with planHook := hook }
  | .user hook => { p with userHook := hook }

def homeFile (environ : Environ) (name : Text) : Path :=
  let home := environ.value "HOME"
  if home = [] then [] else Path.under home name

def defaultPosixStartup : Path := ".shinit"

def startupPathOf (environ : Environ) : ShellKind → Path
  | .bash => homeFile environ ".bashrc"
  | .zsh => homeFile environ ".zshrc"
  | .ksh => homeFile environ ".kshrc"
  | .posix =>
    let named := environ.value "ENV"
    if named = [] then defaultPosixStartup else named
  | .unknown => []

def detect? (environ : Environ) (settings : List HookSetting) : Option ShellProfile :=
  let shell := environ.value "SHELL"
  if shell = [] then none
  else
    let kind := ShellKind.ofPath shell
    let found : ShellProfile :=
      { kind, program := Path.normalize shell, startupPath := startupPathOf environ kind }
    some (settings.foldl set found)

end ShellProfile

end SandboxShell

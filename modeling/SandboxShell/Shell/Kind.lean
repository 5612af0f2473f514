import SandboxShell.Path.Lexical

/-!
Kinds of shells, told apart by the name of the program alone.
-/

namespace SandboxShell

/-- The shells whose startup file can be replaced, and all others. -/
inductive ShellKind where
  | bash
  | zsh
  | ksh
  | posix
  | unknown
  deriving DecidableEq, Repr

namespace ShellKind

def name : ShellKind → Text
  | .bash => "bash"
  | .zsh => "zsh"
  | .ksh => "ksh"
  | .posix => "posix"
  | .unknown => "unknown"

def ofName? (t : Text) : Option ShellKind :=
  [bash, zsh, ksh, posix, unknown].find? (·.name = t)

def withoutLoginDash : Text → Text
  | .char '-' :: rest => rest
  | base => base

def ofProgram (base : Text) : ShellKind :=
  if base = "bash" then .bash
  else if base = "zsh" then .zsh
  else if base = "ksh" then .ksh
  else if base = "dash" ∨ base = "ash" ∨ base = "sh" then .posix
  else .unknown

def ofPath (p : Path) : ShellKind := ofProgram (withoutLoginDash (Path.baseName (Path.normalize p)))

end ShellKind

end SandboxShell

import SandboxShell.Shell.Profile

/-!
The command that replaces the sandbox's shell by the user's. It goes through `env`, so that
variables are set before the shell runs any startup file; how the shell is pointed at a startup
file depends on its kind.
-/

namespace SandboxShell

inductive CommandWord where
  | bare (t : Text)
  | quoted (t : Text)
  deriving DecidableEq, Repr

def CommandWord.text : CommandWord → Text
  | .bare t => t
  | .quoted t => "\"" ++ t ++ "\""

namespace ShellProfile

/-- The variables that point a shell at a startup file. A zsh is told the directory, and looks for
`.zshrc` there. -/
def startupVariables (startup : Path) : ShellKind → List CommandWord
  | .zsh => [.quoted ("ZDOTDIR=" ++ Path.dirName startup)]
  | .ksh | .posix => [.quoted ("ENV=" ++ startup)]
  | .bash | .unknown => []

def startupArguments (startup : Path) : ShellKind → List CommandWord
  | .bash => [.bare "--rcfile", .quoted startup]
  | .zsh | .ksh | .posix | .unknown => []

def commandWords (p : ShellProfile) (startup : Option Path) : List CommandWord :=
  let start : List CommandWord := [.bare "exec", .bare "env", .quoted ("SHELL=" ++ p.program)]
  match startup with
  | none | some [] => start ++ [.bare p.program]
  | some startup =>
    start ++ startupVariables startup p.kind ++ [.bare p.program] ++ startupArguments startup p.kind

def command (p : ShellProfile) (startup : Option Path) : Text :=
  Text.join " " ((p.commandWords startup).map CommandWord.text)

end ShellProfile

end SandboxShell

import SandboxShell.Shell.Command

/-!
The two commands that can start a shell. One leaves the shell to its own startup files, the other
points it at the startup file of the session, in the way of its kind. The second is the longer one,
so that a command tells whether the shell is pointed anywhere.
-/

namespace SandboxShell

namespace ShellProfile

def plainCommand (p : ShellProfile) : Text :=
  "exec env \"SHELL=" ++ p.program ++ "\" " ++ p.program

def pointingCommand (p : ShellProfile) (startup : Path) : Text :=
  match p.kind with
  | .bash =>
    "exec env \"SHELL=" ++ p.program ++ "\" " ++ p.program ++ " --rcfile \"" ++ startup ++ "\""
  | .zsh =>
    "exec env \"SHELL=" ++ p.program ++ "\" \"ZDOTDIR=" ++ Path.dirName startup ++ "\" " ++
      p.program
  | .ksh | .posix =>
    "exec env \"SHELL=" ++ p.program ++ "\" \"ENV=" ++ startup ++ "\" " ++ p.program
  | .unknown => p.plainCommand

theorem command_none (p : ShellProfile) : p.command none = p.plainCommand := by
  simp [command, commandWords, plainCommand, CommandWord.text, Text.join, Text.ofString]

theorem command_some (p : ShellProfile) {startup : Path} (somewhere : startup ≠ []) :
    p.command (some startup) = p.pointingCommand startup := by
  cases startup with
  | nil => exact absurd rfl somewhere
  | cons s rest =>
    cases kind : p.kind <;>
      simp [command, commandWords, pointingCommand, plainCommand, startupVariables,
        startupArguments, kind, CommandWord.text, Text.join, Text.ofString]

/-- A command that points a shell somewhere is longer than one that does not. -/
theorem plainCommand_lt (p : ShellProfile) (startup : Path) (known : p.kind ≠ .unknown) :
    p.plainCommand.length < (p.pointingCommand startup).length := by
  unfold plainCommand pointingCommand
  cases kind : p.kind with
  | unknown => exact absurd kind known
  | bash | zsh | ksh | posix =>
    simp only [List.length_append, Text.ofString, List.length_map, String.length_toList]
    have lengths : "exec env \"SHELL=".length = 16 ∧ "\" ".length = 2 ∧ "\"".length = 1 ∧
        " --rcfile \"".length = 11 ∧ "\" \"ZDOTDIR=".length = 11 ∧ "\" \"ENV=".length = 7 := by
      decide
    omega

theorem plainCommand_ne (p : ShellProfile) (startup : Path) (known : p.kind ≠ .unknown) :
    p.plainCommand ≠ p.pointingCommand startup := fun same =>
  absurd (congrArg List.length same) (Nat.ne_of_lt (p.plainCommand_lt startup known))

end ShellProfile

end SandboxShell

import SandboxShell.Proofs.Shell.Meaning
import SandboxShell.Shell.Profile

/-!
The command that starts a user's shell, as another shell reads it. The program stands in it twice,
once between double quotes and once bare, and the path of the startup file between double quotes.
The command means what is intended just when the program may stand bare and the path between quotes.
-/

namespace SandboxShell

namespace ShellProfile

open WordReader

def intended (p : ShellProfile) : Option Path → List Text
  | none | some [] => ["exec", "env", "SHELL=" ++ p.program, p.program]
  | some startup =>
    match p.kind with
    | .bash => ["exec", "env", "SHELL=" ++ p.program, p.program, "--rcfile", startup]
    | .zsh => ["exec", "env", "SHELL=" ++ p.program, "ZDOTDIR=" ++ Path.dirName startup, p.program]
    | .ksh | .posix => ["exec", "env", "SHELL=" ++ p.program, "ENV=" ++ startup, p.program]
    | .unknown => ["exec", "env", "SHELL=" ++ p.program, p.program]

/-- The path that the command of a shell holds between quotes besides the program. -/
def quotedPath (p : ShellProfile) : Option Path → Option Path
  | none | some [] => none
  | some startup =>
    match p.kind with
    | .bash | .ksh | .posix => some startup
    | .zsh => some (Path.dirName startup)
    | .unknown => none

theorem contents_commandWords (p : ShellProfile) (startup : Option Path) :
    (p.commandWords startup).map (·.content.asWord) = (p.intended startup).map Text.asWord := by
  rcases startup with _ | _ | ⟨s, rest⟩
  · rfl
  · rfl
  · cases kind : p.kind <;>
      simp [commandWords, intended, startupVariables, startupArguments, kind, CommandWord.content]

theorem quotable_assignment (name : String) (plain : ∀ s ∈ Text.ofString name, s ∉ escapable)
    (value : Text) : Quotable (name ++ value) ↔ Quotable value :=
  quotable_append_iff plain

theorem sound_commandWords_iff (p : ShellProfile) (startup : Option Path) :
    (∀ w ∈ p.commandWords startup, w.Sound) ↔
      StandsBare p.program ∧ ∀ path ∈ p.quotedPath startup, Quotable path := by
  have exec : StandsBare "exec" := by decide
  have env : StandsBare "env" := by decide
  have rcfile : StandsBare "--rcfile" := by decide
  have shell := quotable_assignment "SHELL=" (by decide) p.program
  have zdotdir := quotable_assignment "ZDOTDIR=" (by decide)
  have variable_env := quotable_assignment "ENV=" (by decide)
  have twice : Quotable p.program ∧ StandsBare p.program ↔ StandsBare p.program :=
    and_iff_right_of_imp StandsBare.quotable
  have around (rule : Prop) :
      Quotable p.program ∧ rule ∧ StandsBare p.program ↔ StandsBare p.program ∧ rule :=
    ⟨fun ⟨_, holds, bare⟩ => ⟨bare, holds⟩, fun ⟨bare, holds⟩ => ⟨bare.quotable, holds, bare⟩⟩
  rcases startup with _ | _ | ⟨s, rest⟩
  · simp [commandWords, quotedPath, CommandWord.Sound, exec, env, shell, twice]
  · simp [commandWords, quotedPath, CommandWord.Sound, exec, env, shell, twice]
  · cases kind : p.kind with
    | bash =>
      simp [commandWords, quotedPath, startupVariables, startupArguments, kind, CommandWord.Sound,
        exec, env, shell, rcfile, ← and_assoc, twice]
    | zsh =>
      simp [commandWords, quotedPath, startupVariables, startupArguments, kind, CommandWord.Sound,
        exec, env, shell, zdotdir, around]
    | ksh | posix =>
      simp [commandWords, quotedPath, startupVariables, startupArguments, kind, CommandWord.Sound,
        exec, env, shell, variable_env, around]
    | unknown =>
      simp [commandWords, quotedPath, startupVariables, startupArguments, kind, CommandWord.Sound,
        exec, env, shell, twice]

/-- The command of a shell is read as the words that it is meant to have just when its program may
stand bare and the path to its startup file between double quotes. -/
theorem command_intended_iff (p : ShellProfile) (startup : Option Path) :
    (p.command startup).shellWords? = some ((p.intended startup).map Text.asWord) ↔
      StandsBare p.program ∧ ∀ path ∈ p.quotedPath startup, Quotable path := by
  rw [← contents_commandWords, ← sound_commandWords_iff]
  exact CommandWord.shellWords?_join_iff

/-- A blank in the path of a program makes two words of it. -/
theorem command_divided :
    let environ : Environ := Table.ofList [("SHELL", "/opt/my shells/bash"), ("HOME", "/home/u")]
    ∃ p, detect? environ [] = some p ∧
      (p.command (some "/tmp/d/.bashrc")).shellWords? =
        some ((["exec", "env", "SHELL=/opt/my shells/bash", "/opt/my", "shells/bash", "--rcfile",
          "/tmp/d/.bashrc"] : List Text).map Text.asWord) ∧
      (p.command (some "/tmp/d/.bashrc")).shellWords? ≠
        some ((p.intended (some "/tmp/d/.bashrc")).map Text.asWord) := by
  intro environ
  let p : ShellProfile :=
    { kind := .bash, program := "/opt/my shells/bash", startupPath := "/home/u/.bashrc" }
  exact ⟨p, by decide, by decide, by decide⟩

end ShellProfile

end SandboxShell

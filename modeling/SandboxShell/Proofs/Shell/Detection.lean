import SandboxShell.Session.Startup
import SandboxShell.Proofs.Path.Parts
import SandboxShell.Proofs.Path.Resolved

/-!
Profiles of detected shells. Each has a program, and what it is and where its startup file lies
depend on the environment alone; the settings only put in the hooks.
-/

namespace SandboxShell

namespace ShellProfile

theorem detect?_eq {environ : Environ} {settings : List HookSetting} {p : ShellProfile}
    (found : detect? environ settings = some p) :
    p.kind = ShellKind.ofPath (environ.value "SHELL") ∧
      p.program = Path.normalize (environ.value "SHELL") ∧
      p.startupPath = startupPathOf environ p.kind := by
  have kept (settings : List HookSetting) (q : ShellProfile) :
      (settings.foldl set q).kind = q.kind ∧ (settings.foldl set q).program = q.program ∧
        (settings.foldl set q).startupPath = q.startupPath := by
    induction settings generalizing q with
    | nil => exact ⟨rfl, rfl, rfl⟩
    | cons setting settings ih => cases setting <;> exact ih _
  unfold detect? at found
  dsimp only at found
  split at found
  · cases found
  · obtain rfl := Option.some.inj found
    obtain ⟨kind, program, startupPath⟩ := kept settings
      { kind := ShellKind.ofPath (environ.value "SHELL"),
        program := Path.normalize (environ.value "SHELL"),
        startupPath := startupPathOf environ (ShellKind.ofPath (environ.value "SHELL")) }
    exact ⟨kind, program, startupPath.trans (congrArg (startupPathOf environ) kind.symm)⟩

theorem startupName_zsh {environ : Environ} {settings : List HookSetting} {p : ShellProfile}
    (found : detect? environ settings = some p) (zsh : p.kind = .zsh)
    (housed : environ.value "HOME" ≠ []) : startupName p.startupPath = ".zshrc" := by
  have path : p.startupPath = Path.under (environ.value "HOME") ".zshrc" := by
    rw [(detect?_eq found).2.2, zsh, startupPathOf, homeFile, if_neg housed]
  have isName : Path.IsName ".zshrc" := by
    unfold Path.IsName
    decide
  unfold startupName
  rw [path, Path.baseName_under _ isName]
  rfl

theorem detect?_planHook {environ : Environ} {hook : Option Text} {user : Text} {p : ShellProfile}
    (found : detect? environ [.plan hook, .user user] = some p) : p.planHook = hook := by
  unfold detect? at found
  dsimp only at found
  split at found
  · cases found
  · obtain rfl := Option.some.inj found
    rfl

theorem startupPathOf_congr {one two : Environ} (home : one.value "HOME" = two.value "HOME")
    (named : one.value "ENV" = two.value "ENV") : startupPathOf one = startupPathOf two := by
  funext kind
  cases kind with
  | bash | zsh | ksh => simp only [startupPathOf, homeFile, home]
  | posix => simp only [startupPathOf, named]
  | unknown => rfl

theorem detect?_program {one two : Environ} {settings : List HookSetting} {p : ShellProfile}
    (found : detect? one settings = some p) (shell : two.value "SHELL" = p.program)
    (home : one.value "HOME" = two.value "HOME") (named : one.value "ENV" = two.value "ENV") :
    detect? two settings = some p := by
  have program := (detect?_eq found).2.1
  have somewhere : p.program ≠ [] := program ▸ Path.normalize_ne_nil _
  unfold detect? at found ⊢
  dsimp only at found ⊢
  split at found
  · cases found
  · rw [← found, shell, if_neg somewhere, program, ShellKind.ofPath_normalize,
      Path.normalize_normalize, startupPathOf_congr home named]

theorem detect?_filter (environ : Environ) (settings : List HookSetting) :
    (detect? environ settings).filter (·.program ≠ []) ≠ none ↔ environ.value "SHELL" ≠ [] := by
  cases found : detect? environ settings with
  | none =>
    unfold detect? at found
    dsimp only at found
    split at found
    · rename_i nameless
      simp [nameless]
    · cases found
  | some p =>
    have program : p.program ≠ [] := by
      rw [(detect?_eq found).2.1]
      exact Path.normalize_ne_nil _
    have named : environ.value "SHELL" ≠ [] := by
      intro nameless
      unfold detect? at found
      rw [if_pos nameless] at found
      cases found
    rw [Option.filter_some, if_pos (decide_eq_true program)]
    exact iff_of_true (Option.some_ne_none p) named

end ShellProfile

end SandboxShell

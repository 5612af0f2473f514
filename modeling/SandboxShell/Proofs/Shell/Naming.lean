import SandboxShell.Proofs.Path.Final
import SandboxShell.Proofs.Shell.Detection
import Mathlib.Data.List.Find

/-!
What a shell is called decides what it is. The kind of a shell depends on the final component of its
path alone, whatever stands before it and whatever follows it without leading elsewhere; and of that
name, at most one dash in front does not count. A detected shell is of the kind that its own program
has, and its startup file has a place unless the kind is unknown or there is no home directory for
one.
-/

namespace SandboxShell

namespace ShellKind

def known : List (Text × ShellKind) :=
  [("bash", .bash), ("zsh", .zsh), ("ksh", .ksh), ("dash", .posix), ("ash", .posix),
    ("sh", .posix)]

/-- The kind that a program name stands for: that of the known name which it is, or which it is but
for a dash in front. -/
def named (base : Text) : ShellKind :=
  ((known.find? fun entry => base = entry.1 ∨ base = .char '-' :: entry.1).map Prod.snd).getD
    .unknown

theorem ofProgram_eq (base : Text) :
    ofProgram base = ((known.find? fun entry => base = entry.1).map Prod.snd).getD .unknown := by
  unfold ofProgram known
  split_ifs with bash zsh ksh posix
  · subst bash
    rfl
  · subst zsh
    rfl
  · subst ksh
    rfl
  · rcases posix with rfl | rfl | rfl <;> rfl
  · simp only [not_or] at posix
    simp [bash, zsh, ksh, posix]

theorem withoutLoginDash_eq_iff {base name : Text} (plain : name.head? ≠ some (.char '-')) :
    withoutLoginDash base = name ↔ base = name ∨ base = .char '-' :: name := by
  unfold withoutLoginDash
  split
  · rename_i rest
    have other : .char '-' :: rest ≠ name := fun same => plain (same ▸ rfl)
    simp [other]
  · rename_i undashed
    have other : base ≠ .char '-' :: name := fun same => undashed name same
    simp [other]

theorem ofProgram_withoutLoginDash (base : Text) :
    ofProgram (withoutLoginDash base) = named base := by
  have plain : ∀ entry ∈ known, entry.1.head? ≠ some (.char '-') := by decide
  have same : (known.find? fun entry => withoutLoginDash base = entry.1) =
      known.find? fun entry => base = entry.1 ∨ base = .char '-' :: entry.1 :=
    List.find?_congr fun entry member =>
      decide_eq_decide.2 (withoutLoginDash_eq_iff (plain entry member))
  rw [ofProgram_eq, same]
  rfl

/-- The kind of a shell is that of the last component of its path that names an entry. -/
theorem ofPath_entry {d base tail : Text} (lead : Path.IsLead d) (entry : Path.IsEntry base)
    (idle : Path.Idle tail) : ofPath (d ++ base ++ tail) = named base := by
  rw [ofPath, Path.baseName_normalize_entry lead entry idle, ofProgram_withoutLoginDash]

end ShellKind

namespace ShellProfile

theorem exists_detect? {environ : Environ} (settings : List HookSetting)
    (shell : environ.value "SHELL" ≠ []) : ∃ p, detect? environ settings = some p :=
  ⟨_, if_neg shell⟩

theorem homeFile_eq_nil_iff {environ : Environ} {name : Text} (somewhere : name ≠ []) :
    homeFile environ name = [] ↔ environ.value "HOME" = [] := by
  unfold homeFile
  by_cases homeless : environ.value "HOME" = []
  · simp [homeless]
  · simp only [homeless, if_false, iff_false]
    intro nowhere
    unfold Path.under at nowhere
    split_ifs at nowhere
    · exact somewhere nowhere
    · exact somewhere (List.append_eq_nil_iff.1 nowhere).2
    · exact somewhere (List.append_eq_nil_iff.1 nowhere).2

theorem startupPathOf_eq_nil_iff (environ : Environ) (kind : ShellKind) :
    startupPathOf environ kind = [] ↔
      kind = .unknown ∨ kind ∈ [.bash, .zsh, .ksh] ∧ environ.value "HOME" = [] := by
  cases kind with
  | bash | zsh | ksh => simp [startupPathOf, homeFile_eq_nil_iff, Text.ofString]
  | posix =>
    have somewhere : startupPathOf environ .posix ≠ [] := by
      unfold startupPathOf
      by_cases unnamed : environ.value "ENV" = []
      · simp only [unnamed, if_true]
        exact List.cons_ne_nil _ _
      · simp only [unnamed, if_false]
        exact unnamed
    simp [somewhere]
  | unknown => simp [startupPathOf]

end ShellProfile

/-- The kind of a shell depends on the name of its program alone; a detected shell has the kind of
its program, and it has no place for a startup file just if its kind is unknown or there is no home
directory for one. -/
theorem shell_kind_of_name :
    (∀ d base tail : Text, Path.IsEntry base → Path.Idle tail →
      ShellKind.ofPath (d ++ "/" ++ base ++ tail) = ShellKind.named base ∧
      ShellKind.ofPath (base ++ tail) = ShellKind.named base) ∧
    ∀ (environ : Environ) (settings : List HookSetting), environ.value "SHELL" ≠ [] →
      ∃ p, ShellProfile.detect? environ settings = some p ∧
        p.kind = ShellKind.ofPath p.program ∧
        (p.startupPath = [] ↔ p.kind = .unknown ∨
          p.kind ∈ [.bash, .zsh, .ksh] ∧ environ.value "HOME" = []) := by
  constructor
  · intro d base tail entry idle
    have under : Path.IsLead (d ++ "/") := .inr ⟨d, rfl⟩
    refine ⟨ShellKind.ofPath_entry under entry idle, ?_⟩
    rw [← List.nil_append base]
    exact ShellKind.ofPath_entry (.inl rfl) entry idle
  · intro environ settings shell
    obtain ⟨p, found⟩ := ShellProfile.exists_detect? settings shell
    obtain ⟨kind, program, startup⟩ := ShellProfile.detect?_eq found
    refine ⟨p, found, ?_, ?_⟩
    · rw [kind, program, ShellKind.ofPath_normalize]
    · rw [startup]
      exact ShellProfile.startupPathOf_eq_nil_iff environ p.kind

/-- A login shell below a directory that is left again, and no home directory: it is a zsh without a
startup file. -/
theorem shell_kind_of_name_login :
    let base : Text := "-zsh"
    let tail : Text := "/./y/..//"
    let environ : Environ := Table.ofList [("SHELL", "//x/../usr/-zsh/./y/..//")]
    Path.IsEntry base ∧ Path.Idle tail ∧ environ.value "SHELL" ≠ [] ∧
      ShellKind.ofPath ("//x/../usr" ++ "/" ++ base ++ tail) = .zsh ∧
      ShellKind.ofPath (base ++ tail) = .zsh ∧
      ∃ p, ShellProfile.detect? environ [] = some p ∧ p.kind = .zsh ∧ p.startupPath = [] := by
  intro base tail environ
  have entry : Path.IsEntry base := ⟨⟨by decide, by decide, by decide⟩, by decide⟩
  have left : Path.IsEntry "y" := ⟨⟨by decide, by decide, by decide⟩, by decide⟩
  have idle : Path.Idle tail := .dot (.back left (.slash (.slash .none)))
  have shell : environ.value "SHELL" ≠ [] := by decide
  obtain ⟨named, detected⟩ := shell_kind_of_name
  have zsh : ShellKind.named base = .zsh := by decide
  obtain ⟨under, bare⟩ := named "//x/../usr" base tail entry idle
  obtain ⟨p, found, kind, nowhere⟩ := detected environ [] shell
  have isZsh : p.kind = .zsh := by
    rw [(ShellProfile.detect?_eq found).1]
    exact under.trans zsh
  have homeless : p.kind ∈ [.bash, .zsh, .ksh] ∧ environ.value "HOME" = [] :=
    ⟨by simp [isZsh], by decide⟩
  exact ⟨entry, idle, shell, under.trans zsh, bare.trans zsh, p, found, isZsh,
    nowhere.2 (.inr homeless)⟩

end SandboxShell

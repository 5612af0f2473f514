import SandboxShell.Proofs.Path.Direct
import SandboxShell.Proofs.Path.Final
import SandboxShell.Proofs.Session.Pointed

/-!
Where the startup file of a session lies. What is put right into a fresh directory has a path in its
normal form, unless its name is one that leads elsewhere. The startup file takes its name from the
path of the user's own; of those paths only the one that a variable names for a POSIX shell can end
in a name of that kind, and then the system does not open the new file.
-/

namespace SandboxShell

namespace Host

theorem freshDirectory_eq {h : Host} {directory : Path}
    (made : h.freshDirectory = .ok directory) : directory = h.nextDirectory := by
  unfold freshDirectory at made
  split at made
  · cases made
  · exact (Except.ok.inj made).symm

/-- On this machine no file can be opened for writing under the name of a directory. -/
def RefusesWays (h : Host) : Prop :=
  ∀ path, Path.IsWay (Path.baseName path) → (h.writing path).opens = false

theorem refusesWays_usual {h : Host} (usual : h.writing = WriteOutcome.usual) : h.RefusesWays := by
  intro path way
  rw [usual, WriteOutcome.usual, if_pos way]
  rfl

end Host

namespace ShellProfile

theorem startupName_of_ne_nil {path : Path} (named : Path.baseName path ≠ []) :
    startupName path = Path.baseName path := if_neg named

theorem isEntry_startupName_iff (path : Path) :
    Path.IsEntry (startupName path) ↔ ¬ Path.IsWay (Path.baseName path) := by
  by_cases nameless : Path.baseName path = []
  · have name : startupName path = Text.ofString "shellrc" := if_pos nameless
    rw [name, nameless]
    exact iff_of_true ⟨⟨by decide, by decide, by decide⟩, by decide⟩ (by decide)
  · rw [startupName_of_ne_nil nameless]
    constructor
    · rintro entry (here | up)
      · exact entry.moving here
      · exact entry.named up
    · intro other
      obtain ⟨here, up⟩ := not_or.1 other
      exact ⟨⟨nameless, here, Path.isName_baseName path⟩, up⟩

/-- Of the paths of startup files only one that `ENV` names can end in a way to another
directory. -/
theorem isWay_startupPathOf_iff (environ : Environ) (kind : ShellKind) :
    Path.IsWay (Path.baseName (startupPathOf environ kind)) ↔
      kind = .posix ∧ Path.IsWay (Path.baseName (environ.value "ENV")) := by
  have home (name : Text) (isName : Path.IsName name) (other : ¬ Path.IsWay name) :
      ¬ Path.IsWay (Path.baseName (homeFile environ name)) := by
    unfold homeFile
    dsimp only
    split
    · decide
    · rw [Path.baseName_under _ isName]
      exact other
  cases kind with
  | bash | zsh | ksh =>
    refine iff_of_false (home _ ?_ (by decide)) fun posix => nomatch posix.1
    unfold Path.IsName
    decide
  | unknown =>
    have nowhere : ¬ Path.IsWay (Path.baseName []) := by decide
    exact iff_of_false nowhere fun posix => nomatch posix.1
  | posix =>
    unfold startupPathOf
    dsimp only
    split
    · rename_i unnamed
      rw [unnamed]
      exact iff_of_false (by decide) fun posix => absurd posix.2 (by decide)
    · simp only [true_and]

/-- A startup file that was written to its end lies right in the fresh directory, with a path in normal
form and the name of an entry, which is that of the user's own file if that is one. So `ENV` has named
no directory by a dot or two for a POSIX shell. -/
theorem writeStartup_placed {environ : Environ} {settings : List HookSetting} {h : Host}
    {p : ShellProfile} {mark : Text} {directory path : Path}
    (found : detect? environ settings = some p) (made : h.freshDirectory = .ok directory)
    (refusing : h.RefusesWays) (answer : (p.writeStartup h mark).value = .ok path) :
    Path.normalize path = path ∧ Path.dirName path = directory ∧
      Path.IsEntry (Path.baseName path) ∧
      (Path.IsEntry (Path.baseName p.startupPath) →
        Path.baseName path = Path.baseName p.startupPath) ∧
      ¬ (p.kind = .posix ∧ Path.IsWay (Path.baseName (environ.value "ENV"))) := by
  obtain rfl := Host.freshDirectory_eq made
  obtain ⟨rfl, kept, -⟩ := writeStartup_ok answer
  have base : Path.baseName (p.sessionPath h) = startupName p.startupPath := by
    rw [sessionPath_eq]
    exact Path.baseName_slash _ (isName_startupName p.startupPath)
  have other : ¬ Path.IsWay (Path.baseName p.startupPath) := by
    intro way
    -- then the session's file has the same name, and could not have been opened
    have nameless : Path.baseName p.startupPath ≠ [] := by
      rcases way with here | up
      · exact here ▸ List.cons_ne_nil _ _
      · exact up ▸ List.cons_ne_nil _ _
    have shut := refusing (p.sessionPath h) (by rwa [base, startupName_of_ne_nil nameless])
    rw [kept] at shut
    cases shut
  have entry := (isEntry_startupName_iff p.startupPath).2 other
  rw [base]
  refine ⟨?_, p.dirName_sessionPath h, entry, fun own => startupName_of_ne_nil own.filled, ?_⟩
  · obtain ⟨root, names, filled, direct⟩ := (h.fresh h.directories).direct
    rw [sessionPath_eq]
    exact (direct.slash filled entry.toIsStep entry.named).normalize_eq
  · rw [← isWay_startupPathOf_iff, ← (detect?_eq found).2.2]
    exact other

/-- A POSIX shell's startup file is named with a slash at its end, so that the new one has a name of
its own; the thousandth directory has a number of four digits. -/
theorem writeStartup_placed_nameless :
    let environ : Environ := Table.ofList [("ENV", "../rc//"), ("SHELL", "/bin/dash")]
    let h : Host := { environ, directories := 999, nesting := 991 }
    let p : ShellProfile := { kind := .posix, program := "/bin/dash", startupPath := "../rc//" }
    let path : Path := "/tmp/boxsh1000/shellrc"
    detect? environ [] = some p ∧ h.freshDirectory = .ok "/tmp/boxsh1000" ∧ h.RefusesWays ∧
      (p.writeStartup h "").value = .ok path ∧ Path.dirName path = "/tmp/boxsh1000" ∧
      Path.normalize path = path ∧ Path.IsEntry (Path.baseName path) := by
  intro environ h p path
  have found : detect? environ [] = some p := by decide
  have made : h.freshDirectory = .ok "/tmp/boxsh1000" := by decide +kernel
  have refusing : h.RefusesWays := Host.refusesWays_usual rfl
  have answer : (p.writeStartup h "").value = .ok path := by decide +kernel
  obtain ⟨normal, directory, proper, -, -⟩ := writeStartup_placed found made refusing answer
  exact ⟨found, made, refusing, answer, directory, normal, proper⟩

end ShellProfile

end SandboxShell

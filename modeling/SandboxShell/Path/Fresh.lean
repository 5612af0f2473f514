import SandboxShell.Proofs.Path.Direct
import SandboxShell.Proofs.Path.Parts

/-!
Fresh directories. The system picks the path of one: it is absolute and in normal form, and it lies
under another directory. A name put right under it is told apart from it again.
-/

namespace SandboxShell

structure FreshDirectory where
  path : Path
  absolute : Path.isAbsolute path = true
  normal : Path.normalize path = path
  below : Path.baseName path ≠ []

namespace FreshDirectory

variable (directory : FreshDirectory)

theorem path_ne_nil : directory.path ≠ [] := by
  intro nowhere
  have absolute := directory.absolute
  rw [nowhere] at absolute
  cases absolute

theorem getLast?_path : directory.path.getLast? ≠ some (.char '/') := by
  intro slash
  obtain ⟨stem, split⟩ := List.getLast?_eq_some_iff.1 slash
  refine directory.below ?_
  rw [split]
  exact Path.baseName_slash stem (List.not_mem_nil)

theorem under_path {name : Text} (isName : Path.IsName name) :
    Path.under directory.path name = directory.path ++ .char '/' :: name :=
  Path.under_eq isName directory.path_ne_nil directory.getLast?_path

theorem dirName_slash {name : Text} (isName : Path.IsName name) :
    Path.dirName (directory.path ++ .char '/' :: name) = directory.path :=
  Path.dirName_slash isName directory.path_ne_nil directory.getLast?_path

theorem direct : ∃ root names, names ≠ [] ∧ directory.path.Direct root names := by
  have direct := Path.direct_normalize directory.absolute
  rw [directory.normal] at direct
  refine ⟨_, _, fun nameless => directory.below ?_, direct⟩
  rw [direct.written, nameless]
  cases Path.root directory.path <;> rfl

def numbered (n : Nat) : FreshDirectory :=
  have parent : Path.Direct "/tmp" .top ["tmp"] :=
    ⟨by decide, List.forall_mem_singleton.2 ⟨⟨by decide, by decide, by decide⟩, by decide⟩, rfl⟩
  have unbroken : Path.IsName (Text.ofString "boxsh" ++ Text.digits 10 4 (n + 1)) :=
    List.not_mem_append (by decide) (Path.isName_digits 4 (n + 1))
  have other (name : Text) (short : name.head? ≠ some (.char 'b')) :
      Text.ofString "boxsh" ++ Text.digits 10 4 (n + 1) ≠ name := by
    rintro rfl
    exact short rfl
  have direct := parent.slash (List.cons_ne_nil _ _)
    ⟨List.cons_ne_nil _ _, other "." (by decide), unbroken⟩ (other ".." (by decide))
  { path := "/tmp/boxsh" ++ Text.digits 10 4 (n + 1)
    absolute := rfl
    normal := direct.normalize_eq
    below := by
      have base := Path.baseName_slash "/tmp" unbroken
      exact fun nameless => List.cons_ne_nil _ _ (base.symm.trans nameless) }

end FreshDirectory

end SandboxShell

import SandboxShell.Path.Lexical

/-!
Absolute paths. The route of one starts from a root, and the text of such a route is absolute. A path
stays absolute when it is continued, and so does any part of it in front.
-/

namespace SandboxShell

namespace Path

theorem isAbsolute_iff {p : Path} : isAbsolute p = true ↔ p.head? = some (.char '/') := by
  unfold isAbsolute
  split
  · exact iff_of_true rfl rfl
  · rename_i other
    apply iff_of_false Bool.false_ne_true
    intro front
    obtain ⟨rest, split⟩ := List.head?_eq_some_iff.1 front
    exact other rest split

theorem isAbsolute_append {p : Path} (absolute : isAbsolute p = true) (rest : Text) :
    isAbsolute (p ++ rest) = true := by
  rw [isAbsolute_iff] at absolute ⊢
  rw [List.head?_append, absolute]
  rfl

theorem isAbsolute_of_prefix {p q : Path} (absolute : isAbsolute p = true) (front : q <+: p)
    (somewhere : q ≠ []) : isAbsolute q = true := by
  obtain ⟨rest, rfl⟩ := front
  rw [isAbsolute_iff] at absolute ⊢
  cases q with
  | nil => exact absurd rfl somewhere
  | cons s q => exact absolute

theorem isAbsolute_under {d : Path} (absolute : isAbsolute d = true) (p : Path) :
    isAbsolute (under d p) = true := by
  unfold under
  split
  · assumption
  · split
    · exact isAbsolute_append absolute p
    · exact isAbsolute_append (isAbsolute_append absolute _) p

theorem root_ne_current {p : Path} (absolute : isAbsolute p = true) : root p ≠ .current := by
  unfold root
  split
  · exact Root.noConfusion
  · exact Root.noConfusion
  · exact Root.noConfusion
  · rename_i other
    obtain ⟨rest, split⟩ := List.head?_eq_some_iff.1 (isAbsolute_iff.1 absolute)
    exact absurd split (other rest)

end Path

namespace Route

theorem isAbsolute_text {r : Route} (rooted : r.root ≠ .current) : Path.isAbsolute r.text = true := by
  unfold text
  rw [if_neg (fun nowhere => rooted nowhere.1)]
  cases root : r.root with
  | current => exact absurd root rooted
  | top | doubled => rfl

end Route

end SandboxShell

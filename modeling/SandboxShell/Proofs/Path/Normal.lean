import SandboxShell.Path.Lexical
import SandboxShell.Proofs.Text.Pieces

/-!
Normal forms of paths. A normal form is never empty, and it holds no symbols but those of the path,
slashes and dots.
-/

namespace SandboxShell

namespace Route

theorem mem_take {root : Root} {done : List Text} {step s : Text}
    (member : s ∈ take root done step) : s = step ∨ s ∈ done := by
  unfold take at member
  split at member
  · exact List.mem_cons.1 member
  · split at member
    · split at member
      · exact .inl (List.mem_singleton.1 member)
      · cases member
    · split at member
      · exact List.mem_cons.1 member
      · exact .inr (List.mem_cons_of_mem _ member)

theorem mem_resolve {r : Route} {s : Text} (member : s ∈ r.resolve.steps) : s ∈ r.steps := by
  have fold (steps done : List Text) (inside : s ∈ steps.foldl (take r.root) done) :
      s ∈ steps ∨ s ∈ done := by
    induction steps generalizing done with
    | nil => exact .inr inside
    | cons step steps ih =>
      rcases ih _ inside with later | earlier
      · exact .inl (List.mem_cons_of_mem _ later)
      · rcases mem_take earlier with rfl | before
        · exact .inl List.mem_cons_self
        · exact .inr before
  rcases fold r.steps [] (List.mem_reverse.1 member) with inside | none
  · exact inside
  · cases none

end Route

namespace Path

theorem mem_steps {p : Path} {step : Text} (member : step ∈ steps p) :
    step ≠ [] ∧ step ≠ Text.ofString "." ∧ ∀ s ∈ step, s ∈ p ∧ s ≠ .char '/' := by
  obtain ⟨piece, named⟩ := List.mem_filter.1 member
  simp only [decide_eq_true_eq] at named
  refine ⟨named.1, named.2, fun s inside => ?_⟩
  obtain ⟨whole, unmarked⟩ := Text.mem_pieces piece s inside
  exact ⟨whole, by simpa using unmarked⟩

theorem mem_normalize {p : Path} {s : Symbol} (member : s ∈ normalize p) :
    s = .char '/' ∨ s = .char '.' ∨ s ∈ p := by
  unfold normalize Route.text at member
  split at member
  · exact .inr (.inl (List.mem_singleton.1 member))
  · rcases List.mem_append.1 member with front | steps
    · refine .inl ?_
      cases h : (route p).resolve.root <;> rw [h] at front <;>
        simp [Root.text, Text.ofString] at front
      all_goals exact front
    · rcases Text.mem_join steps with slash | ⟨step, inside, holds⟩
      · exact .inl (List.mem_singleton.1 slash)
      · exact .inr (.inr ((mem_steps (Route.mem_resolve inside)).2.2 s holds).1)

theorem normalize_ne_nil (p : Path) : normalize p ≠ [] := by
  intro empty
  unfold normalize Route.text at empty
  split at empty
  · cases empty
  · rename_i somewhere
    obtain ⟨noRoot, noSteps⟩ := List.append_eq_nil_iff.1 empty
    have current : (route p).resolve.root = .current := by
      cases h : (route p).resolve.root
      · rfl
      all_goals rw [h] at noRoot; cases noRoot
    rcases Text.join_eq_nil noSteps with none | hollow
    · exact somewhere ⟨current, none⟩
    · exact (mem_steps (Route.mem_resolve hollow)).1 rfl

end Path

end SandboxShell

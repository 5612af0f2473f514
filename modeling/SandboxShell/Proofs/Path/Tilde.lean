import SandboxShell.Path.Home
import SandboxShell.Proofs.Path.Absolute
import SandboxShell.Proofs.Text.Pieces
import Mathlib.Data.List.DropRight

/-!
Tilde steps. A route that such a step leads goes to a home directory, if there is one for its name, and
on from there; any other route stays as it is. A path that does not begin with a tilde can still have a
tilde step in front, behind a dot and a slash, since a route leaves the dot out.
-/

namespace SandboxShell

namespace Path

theorem startsWith_tilde_iff (p : Path) :
    Text.startsWith p "~" = true ↔ p.head? = some (.char '~') := by
  cases p with
  | nil => exact iff_of_false (fun starts => nomatch starts) (fun front => nomatch front)
  | cons s p =>
    rw [List.head?_cons, Option.some.injEq, eq_comm (a := s)]
    simp [Text.startsWith, Text.ofString]

theorem head?_withoutEndSlashes_iff (p : Path) :
    (withoutEndSlashes p).head? = some (.char '~') ↔ p.head? = some (.char '~') := by
  unfold withoutEndSlashes
  dsimp only
  split
  · rename_i slashes
    refine iff_of_false (fun front => absurd (Option.some.inj front) (by decide)) fun front => ?_
    have slash := List.rdropWhile_eq_nil_iff.1 slashes _ (List.mem_of_head? front)
    exact absurd slash (by decide)
  · rename_i somewhere
    obtain ⟨slashes, whole⟩ := List.rdropWhile_prefix (· == Symbol.char '/') p
    have front : (List.rdropWhile (· == Symbol.char '/') p).head? = p.head? :=
      (List.head?_append_of_ne_nil _ somewhere).symm.trans (congrArg List.head? whole)
    exact iff_of_eq (congrArg (· = _) front)

end Path

def Accounts.homeRoute? (accounts : Accounts) (environ : Environ) (name : Text) : Option Route :=
  (accounts.home? environ name).bind fun home =>
    if home.head? = some (.char '~') then none else some (Path.route (Path.withoutEndSlashes home))

namespace Route

theorem extend_injective (more : List Text) : Function.Injective fun r => extend r more := by
  rintro ⟨root, steps⟩ ⟨root', steps'⟩ same
  obtain ⟨roots, continued⟩ := Route.mk.inj same
  exact congrArg₂ Route.mk roots (List.append_cancel_right continued)

/-- The name in the tilde step that leads a route, if one does. -/
def tilde? (r : Route) : Option Text :=
  match r.root, r.steps with
  | .current, (.char '~' :: name) :: _ => some name
  | _, _ => none

theorem tilde?_eq_some_iff {r : Route} {name : Text} :
    r.tilde? = some name ↔ r.root = .current ∧ r.steps.head? = some (.char '~' :: name) := by
  unfold tilde?
  split
  · rename_i shown rest root steps
    simp [root, steps]
  · rename_i other
    refine iff_of_false (fun same => nomatch same) fun ⟨root, front⟩ => ?_
    obtain ⟨rest, steps⟩ := List.head?_eq_some_iff.1 front
    exact other name rest root steps

theorem tilde?_of_rooted {r : Route} (rooted : r.root ≠ .current) : r.tilde? = none :=
  Option.eq_none_iff_forall_ne_some.2 fun _ leads => rooted (tilde?_eq_some_iff.1 leads).1

variable (accounts : Accounts) (environ : Environ)

theorem expandHome?_of_tilde {r : Route} {name : Text} (leads : r.tilde? = some name) :
    r.expandHome? accounts environ =
      (accounts.homeRoute? environ name).map (·.extend r.steps.tail) := by
  obtain ⟨root, steps⟩ := r
  obtain ⟨rfl, front⟩ := tilde?_eq_some_iff.1 leads
  obtain ⟨rest, rfl⟩ := List.head?_eq_some_iff.1 front
  have expanding : expandHome? accounts environ ⟨.current, (.char '~' :: name) :: rest⟩ =
      (accounts.home? environ name).bind fun home =>
        if Text.startsWith (Path.withoutEndSlashes home) "~" then none
        else some ((Path.route (Path.withoutEndSlashes home)).extend rest) := rfl
  rw [expanding, Accounts.homeRoute?]
  cases accounts.home? environ name with
  | none => rfl
  | some home =>
    have same := (Path.startsWith_tilde_iff _).trans (Path.head?_withoutEndSlashes_iff home)
    by_cases tilde : home.head? = some (.char '~')
    · simp [tilde, same.2 tilde]
    · simp [tilde, mt same.1 tilde]

theorem expandHome?_of_plain {r : Route} (plain : r.tilde? = none) :
    r.expandHome? accounts environ = some r := by
  unfold expandHome?
  split
  · rename_i root steps
    have leads := tilde?_eq_some_iff.2 ⟨root, congrArg List.head? steps⟩
    exact nomatch plain.symm.trans leads
  · rfl

/-- A route leads to one place in two environments just when its tilde step does, if it has one. -/
theorem expandHome?_agree_iff (other : Environ) {r : Route} :
    (∃ place, r.expandHome? accounts environ = some place ∧
      r.expandHome? accounts other = some place) ↔
    ∀ name, r.tilde? = some name → ∃ home, accounts.homeRoute? environ name = some home ∧
      accounts.homeRoute? other name = some home := by
  cases leads : r.tilde? with
  | none =>
    have one := expandHome?_of_plain accounts environ leads
    have two := expandHome?_of_plain accounts other leads
    exact iff_of_true ⟨r, one, two⟩ (fun name same => nomatch same)
  | some name =>
    rw [expandHome?_of_tilde _ _ leads, expandHome?_of_tilde _ _ leads]
    constructor
    · rintro ⟨place, one, two⟩ _ ⟨⟩
      obtain ⟨home, told, rfl⟩ := Option.map_eq_some_iff.1 one
      obtain ⟨home', told', same⟩ := Option.map_eq_some_iff.1 two
      obtain rfl := extend_injective _ same
      exact ⟨home', told, told'⟩
    · intro each
      obtain ⟨home, one, two⟩ := each name rfl
      rw [one, two]
      exact ⟨_, rfl, rfl⟩

end Route

/-- A path that does not begin with a tilde can only hide a leading tilde step behind a dot. -/
theorem Path.dotted_of_tilde {p : Path} (untilded : p.head? ≠ some (.char '~'))
    (leads : (route p).tilde? ≠ none) : Text.startsWith p "./" = true := by
  obtain ⟨name, leads⟩ := Option.ne_none_iff_exists'.1 leads
  obtain ⟨current, front⟩ := Route.tilde?_eq_some_iff.1 leads
  cases p with
  | nil => cases front
  | cons s rest =>
    have relative : ¬ (s == Symbol.char '/') = true := by
      intro slash
      obtain rfl := beq_iff_eq.1 slash
      exact root_ne_current rfl current
    have cutting : steps (s :: rest) =
        ((s :: (Text.cut (· == .char '/') rest).1) :: (Text.cut (· == .char '/') rest).2).filter
          fun part => part ≠ [] ∧ part ≠ Text.ofString "." := by
      rw [steps, Text.splitOn, Text.pieces_cons, if_neg relative]
    rw [route, cutting] at front
    by_cases dot : s :: (Text.cut (· == .char '/') rest).1 = Text.ofString "."
    · obtain ⟨rfl, closed⟩ := List.cons.inj dot
      cases rest with
      | nil => cases front
      | cons x rest =>
        by_cases slash : (x == Symbol.char '/') = true
        · obtain rfl := beq_iff_eq.1 slash
          rfl
        · simp [Text.cut, slash] at closed
    · rw [List.filter_cons_of_pos (by simp [dot])] at front
      obtain ⟨rfl, -⟩ := List.cons.inj (Option.some.inj front)
      exact absurd rfl untilded

end SandboxShell

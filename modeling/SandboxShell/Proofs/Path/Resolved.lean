import SandboxShell.Proofs.Path.Normal
import SandboxShell.Shell.Kind

/-!
Normal forms are fixed. A route is read back from its text, and in a resolved route no step takes
back another, so that resolving it once more changes nothing.
-/

namespace SandboxShell

namespace Path

theorem root_append (root : Root) {p : Path} (front : p.head? ≠ some (.char '/')) :
    Path.root (root.text ++ p) = root := by
  cases root with
  | current =>
    show Path.root p = .current
    unfold Path.root
    split
    all_goals first
      | rfl
      | exact absurd rfl front
  | top =>
    show Path.root (.char '/' :: p) = .top
    cases p with
    | nil => rfl
    | cons s rest =>
      have other : s ≠ .char '/' := fun same => front (congrArg some same)
      simp [Path.root, other]
  | doubled =>
    show Path.root (.char '/' :: .char '/' :: p) = .doubled
    cases p with
    | nil => rfl
    | cons s rest =>
      have other : s ≠ .char '/' := fun same => front (congrArg some same)
      simp [Path.root, other]

theorem steps_slash (p : Path) : steps (.char '/' :: p) = steps p := by
  unfold steps Text.splitOn
  rw [Text.pieces_cons, if_pos (beq_self_eq_true _)]
  exact List.filter_cons_of_neg (by simp)

theorem steps_append (root : Root) (p : Path) : steps (root.text ++ p) = steps p := by
  cases root with
  | current => rfl
  | top => exact steps_slash p
  | doubled => exact (steps_slash _).trans (steps_slash p)

end Path

namespace Route

/-- A text that can stand between two slashes of a collapsed path. -/
structure IsStep (step : Text) : Prop where
  filled : step ≠ []
  moving : step ≠ Text.ofString "."
  unbroken : Symbol.char '/' ∉ step

def Proper (r : Route) : Prop := ∀ step ∈ r.steps, IsStep step

theorem proper_route (p : Path) : (Path.route p).Proper := by
  intro step member
  obtain ⟨filled, moving, symbols⟩ := Path.mem_steps member
  exact ⟨filled, moving, fun slash => (symbols _ slash).2 rfl⟩

theorem Proper.resolve {r : Route} (proper : r.Proper) : r.resolve.Proper :=
  fun step member => proper step (mem_resolve member)

theorem head?_join_steps {steps : List Text} (proper : ∀ step ∈ steps, IsStep step) :
    (Text.join "/" steps).head? ≠ some (.char '/') := by
  cases steps with
  | nil => exact Option.some_ne_none _ ∘ Eq.symm
  | cons step rest =>
    obtain ⟨filled, -, unbroken⟩ := proper step List.mem_cons_self
    cases step with
    | nil => exact absurd rfl filled
    | cons s letters =>
      have first : (Text.join "/" ((s :: letters) :: rest)).head? = some s := by
        cases rest <;> rfl
      rw [first]
      intro slash
      obtain rfl := Option.some.inj slash
      exact unbroken List.mem_cons_self

theorem steps_join {steps : List Text} (proper : ∀ step ∈ steps, IsStep step) :
    Path.steps (Text.join "/" steps) = steps := by
  cases steps with
  | nil => rfl
  | cons step rest =>
    have cutting : Text.splitOn '/' (Text.join "/" (step :: rest)) = step :: rest :=
      Text.splitOn_join (List.cons_ne_nil _ _) fun other member => (proper other member).unbroken
    unfold Path.steps
    rw [cutting, List.filter_eq_self]
    intro other member
    exact decide_eq_true ⟨(proper other member).filled, (proper other member).moving⟩

theorem route_text {r : Route} (proper : r.Proper) : Path.route r.text = r := by
  unfold text
  by_cases nowhere : r.root = .current ∧ r.steps = []
  · obtain ⟨root, steps⟩ := r
    obtain ⟨rfl, rfl⟩ := nowhere
    decide
  · rw [if_neg nowhere]
    unfold Path.route
    rw [Path.root_append r.root (head?_join_steps proper), Path.steps_append, steps_join proper]

/-- Steps, the last one first, none of which takes back another: those that go up come before all
others, and there are some only if the route starts from the current directory. -/
inductive Settled (root : Root) : List Text → Prop
  | start : Settled root []
  | up {done : List Text} (free : root = .current) (before : Settled root done)
      (risen : ∀ step ∈ done, step = Text.ofString "..") :
      Settled root (Text.ofString ".." :: done)
  | into {done : List Text} {step : Text} (before : Settled root done)
      (named : step ≠ Text.ofString "..") : Settled root (step :: done)

theorem Settled.take {root : Root} {done : List Text} (settled : Settled root done) (step : Text) :
    Settled root (take root done step) := by
  unfold Route.take
  by_cases named : step ≠ Text.ofString ".."
  · rw [if_pos named]
    exact .into settled named
  · obtain rfl := Decidable.not_not.1 named
    rw [if_neg named]
    cases settled with
    | start =>
      dsimp only
      split
      · rename_i free
        exact .up free .start fun _ member => nomatch member
      · exact .start
    | up free before risen =>
      dsimp only
      rw [if_pos rfl]
      refine .up free (.up free before risen) fun step member => ?_
      rcases List.mem_cons.1 member with rfl | earlier
      · rfl
      · exact risen step earlier
    | into before named =>
      dsimp only
      rw [if_neg named]
      exact before

theorem Settled.take_eq {root : Root} {done : List Text} {step : Text}
    (settled : Settled root (step :: done)) : Route.take root done step = step :: done := by
  unfold Route.take
  cases settled with
  | into before named => rw [if_pos named]
  | up free before risen =>
    rw [if_neg (fun named => named rfl)]
    cases done with
    | nil => exact if_pos free
    | cons last earlier => exact if_pos (risen last List.mem_cons_self)

theorem Settled.before {root : Root} {done : List Text} {step : Text}
    (settled : Settled root (step :: done)) : Settled root done := by
  cases settled with
  | up _ before | into before => exact before

theorem Settled.foldl_take {root : Root} {done : List Text} (settled : Settled root done) :
    done.reverse.foldl (Route.take root) [] = done := by
  induction done with
  | nil => rfl
  | cons step done ih =>
    rw [List.reverse_cons, List.foldl_append, ih settled.before]
    exact settled.take_eq

theorem settled_foldl {root : Root} (steps : List Text) {done : List Text}
    (settled : Settled root done) : Settled root (steps.foldl (take root) done) := by
  induction steps generalizing done with
  | nil => exact settled
  | cons step steps ih => exact ih (settled.take step)

theorem resolve_resolve (r : Route) : r.resolve.resolve = r.resolve := by
  have settled : Settled r.root (r.steps.foldl (take r.root) []) := settled_foldl r.steps .start
  unfold resolve
  dsimp only
  rw [settled.foldl_take]

end Route

namespace Path

theorem route_normalize (p : Path) : route (normalize p) = (route p).resolve :=
  Route.route_text (Route.proper_route p).resolve

theorem normalize_normalize (p : Path) : normalize (normalize p) = normalize p := by
  show (route (normalize p)).resolve.text = _
  rw [route_normalize, Route.resolve_resolve]
  rfl

end Path

theorem ShellKind.ofPath_normalize (p : Path) : ofPath (Path.normalize p) = ofPath p := by
  unfold ofPath
  rw [Path.normalize_normalize]

end SandboxShell

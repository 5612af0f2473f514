import SandboxShell.Proofs.Path.Absolute
import SandboxShell.Proofs.Path.Resolved

/-!
Direct paths: from a root by names alone, with one slash between neighbours. The normal form of an
absolute path is direct. Of two direct paths with one root, one lies under the other as a place just
when it begins with it as a text, up to the end of a name.
-/

namespace SandboxShell

namespace Path

/-- A path from a root by names alone: no part of it is empty, and none is a dot or two dots. -/
structure Direct (p : Path) (root : Root) (names : List Text) : Prop where
  rooted : root ≠ .current
  named : ∀ name ∈ names, Route.IsStep name ∧ name ≠ Text.ofString ".."
  written : p = root.text ++ Text.join "/" names

def parts (p : Path) : List Text := (Text.splitOn '/' p).filter (· ≠ [])

/-- The path `p` is the directory `d` or lies under it, by the parts of both. -/
def LiesIn (p d : Path) : Prop := parts d <+: parts p

instance (p d : Path) : Decidable (LiesIn p d) := inferInstanceAs (Decidable (_ <+: _))

theorem parts_slash (p : Path) : parts (.char '/' :: p) = parts p := by
  unfold parts Text.splitOn
  rw [Text.pieces_cons, if_pos (beq_self_eq_true _)]
  exact List.filter_cons_of_neg (by simp)

theorem parts_append (root : Root) (p : Path) : parts (root.text ++ p) = parts p := by
  cases root with
  | current => rfl
  | top => exact parts_slash p
  | doubled => exact (parts_slash _).trans (parts_slash p)

namespace Direct

variable {p q : Path} {root root' : Root} {names names' : List Text}

theorem isAbsolute (direct : Direct p root names) : isAbsolute p = true := by
  rw [direct.written]
  cases h : root with
  | current => exact absurd h direct.rooted
  | top | doubled => rfl

theorem parts_eq (direct : Direct p root names) : parts p = names := by
  rw [direct.written, parts_append]
  cases names with
  | nil => rfl
  | cons name rest =>
    have cutting : Text.splitOn '/' (Text.join "/" (name :: rest)) = name :: rest :=
      Text.splitOn_join (List.cons_ne_nil _ _) fun other member =>
        (direct.named other member).1.unbroken
    unfold parts
    rw [cutting, List.filter_eq_self]
    intro other member
    exact decide_eq_true (direct.named other member).1.filled

theorem root_eq (direct : Direct p root names) : Path.root p = root := by
  rw [direct.written]
  exact root_append root (Route.head?_join_steps fun name member => (direct.named name member).1)

theorem prefix_of_liesIn (inner : Direct p root names) (outer : Direct q root names')
    (lies : LiesIn p q) : q <+: p := by
  unfold LiesIn at lies
  rw [inner.parts_eq, outer.parts_eq] at lies
  rw [inner.written, outer.written, List.prefix_append_right_inj]
  exact Text.join_prefix lies

end Direct

theorem root_normalize (p : Path) : root (normalize p) = root p :=
  congrArg Route.root (route_normalize p)

theorem isAbsolute_iff_root {p : Path} : isAbsolute p = true ↔ root p ≠ .current := by
  refine ⟨root_ne_current, fun rooted => ?_⟩
  unfold root at rooted
  split at rooted
  · rfl
  · rfl
  · rfl
  · exact absurd rfl rooted

theorem isAbsolute_normalize (p : Path) : isAbsolute (normalize p) = isAbsolute p := by
  rw [Bool.eq_iff_iff, isAbsolute_iff_root, isAbsolute_iff_root, root_normalize]

end Path

namespace Route

theorem settled_of_named {root : Root} {done : List Text}
    (named : ∀ step ∈ done, step ≠ Text.ofString "..") : Settled root done := by
  induction done with
  | nil => exact .start
  | cons step done ih =>
    obtain ⟨here, before⟩ := List.forall_mem_cons.1 named
    exact .into (ih before) here

/-- From a root there is nothing above to go up to. -/
theorem Settled.named {root : Root} (rooted : root ≠ .current) {done : List Text}
    (settled : Settled root done) : ∀ step ∈ done, step ≠ Text.ofString ".." := by
  induction settled with
  | start => exact fun step member => nomatch member
  | up free => exact absurd free rooted
  | into before named ih => exact List.forall_mem_cons.2 ⟨named, ih⟩

end Route

namespace Path

theorem direct_normalize {p : Path} (absolute : isAbsolute p = true) :
    Direct (normalize p) (root p) (route p).resolve.steps where
  rooted := root_ne_current absolute
  named := by
    intro name member
    have settled : Route.Settled (root p) ((steps p).foldl (Route.take (root p)) []) :=
      Route.settled_foldl (steps p) .start
    exact ⟨(Route.proper_route p).resolve name member,
      settled.named (root_ne_current absolute) name (List.mem_reverse.1 member)⟩
  written := if_neg fun nowhere => root_ne_current absolute nowhere.1

namespace Direct

variable {p : Path} {root : Root} {names : List Text}

theorem normalize_eq (direct : Direct p root names) : normalize p = p := by
  have text : Route.text ⟨root, names⟩ = p :=
    (if_neg fun nowhere => direct.rooted nowhere.1).trans direct.written.symm
  have proper : Route.Proper ⟨root, names⟩ := fun name member => (direct.named name member).1
  have read : route p = ⟨root, names⟩ := text ▸ Route.route_text proper
  have settled : Route.Settled root names.reverse := Route.settled_of_named fun name member =>
    (direct.named name (List.mem_reverse.1 member)).2
  have kept := settled.foldl_take
  rw [List.reverse_reverse] at kept
  rw [normalize, read, Route.resolve]
  dsimp only
  rw [kept, List.reverse_reverse, text]

theorem slash (direct : Direct p root names) (below : names ≠ []) {name : Text}
    (isStep : Route.IsStep name) (named : name ≠ Text.ofString "..") :
    Direct (p ++ .char '/' :: name) root (names ++ [name]) where
  rooted := direct.rooted
  named := List.forall_mem_append.2
    ⟨direct.named, List.forall_mem_singleton.2 ⟨isStep, named⟩⟩
  written := by
    rw [Text.join_append below (List.cons_ne_nil _ _), direct.written]
    simp [Text.join, Text.ofString]

end Direct

end Path

end SandboxShell

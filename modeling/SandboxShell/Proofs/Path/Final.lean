import SandboxShell.Proofs.Path.Parts
import SandboxShell.Proofs.Path.Resolved

/-!
The final component of a path. Normalizing keeps the last component that names an entry of its
directory, whatever stands before it, and whatever follows it as long as that leads nowhere else:
slashes, dots, and steps that are taken back. What stands before it in the normal form does not
depend on it.
-/

namespace SandboxShell

namespace Path

/-- A name of an entry in a directory: a step that is not taken back to somewhere else. -/
structure IsEntry (name : Text) : Prop extends Route.IsStep name where
  named : name ≠ Text.ofString ".."

def IsLead (d : Path) : Prop := d = [] ∨ ∃ parent, d = parent ++ [.char '/']

/-- What leads nowhere behind a component. -/
inductive Idle : Text → Prop
  | none : Idle []
  | slash {tail : Text} (more : Idle tail) : Idle ("/" ++ tail)
  | dot {tail : Text} (more : Idle tail) : Idle ("/." ++ tail)
  | back {name tail : Text} (entry : IsEntry name) (more : Idle tail) :
      Idle ("/" ++ name ++ "/.." ++ tail)

theorem steps_mark (p rest : Path) : steps (p ++ .char '/' :: rest) = steps p ++ steps rest := by
  have cutting : Text.splitOn '/' (p ++ .char '/' :: rest) = p.splitOn '/' ++ rest.splitOn '/' :=
    Text.pieces_mark (· == .char '/') (beq_self_eq_true _) p rest
  rw [steps, cutting, List.filter_append]
  rfl

theorem steps_step {step : Text} (isStep : Route.IsStep step) : steps step = [step] :=
  Route.steps_join (List.forall_mem_singleton.2 isStep)

theorem steps_lead {d : Path} (lead : IsLead d) (rest : Path) :
    steps (d ++ rest) = steps d ++ steps rest := by
  rcases lead with rfl | ⟨parent, rfl⟩
  · rfl
  · calc steps (parent ++ [.char '/'] ++ rest)
        = steps parent ++ steps rest := by
          rw [List.append_assoc]
          exact steps_mark parent rest
      _ = steps (parent ++ [.char '/']) ++ steps rest := by
          rw [steps_mark]
          exact congrArg (· ++ steps rest) (List.append_nil _).symm

theorem Idle.steps_append {tail : Text} (idle : Idle tail) (p : Path) :
    steps (p ++ tail) = steps p ++ steps tail := by
  have behind (rest : Text) : steps (p ++ .char '/' :: rest) = steps p ++ steps (.char '/' :: rest) := by
    rw [steps_mark, steps_slash]
  cases idle with
  | none => exact (congrArg steps (List.append_nil p)).trans (List.append_nil _).symm
  | slash | dot | back => exact behind _

theorem Idle.foldl_take {tail : Text} (idle : Idle tail) (root : Root) (done : List Text) :
    (steps tail).foldl (Route.take root) done = done := by
  induction idle with
  | none => rfl
  | @slash tail more ih =>
    have steps_eq : steps ("/" ++ tail) = steps tail := steps_slash tail
    rw [steps_eq, ih]
  | @dot tail more ih =>
    have steps_eq : steps ("/." ++ tail) = steps tail :=
      (steps_slash _).trans (more.steps_append ".")
    rw [steps_eq, ih]
  | @back name tail entry more ih =>
    have steps_eq : steps ("/" ++ name ++ "/.." ++ tail) =
        name :: Text.ofString ".." :: steps tail := by
      calc steps ("/" ++ name ++ "/.." ++ tail)
          = steps (name ++ .char '/' :: (Text.ofString ".." ++ tail)) := by
            rw [← steps_slash]
            simp only [Text.ofString, List.append_assoc]
            rfl
        _ = steps name ++ (steps ".." ++ steps tail) := by
            rw [steps_mark, more.steps_append]
        _ = name :: Text.ofString ".." :: steps tail := by
            rw [steps_step entry.toIsStep]
            rfl
    have into : Route.take root done name = name :: done := if_pos entry.named
    have back : Route.take root (name :: done) ".." = done := by
      rw [Route.take, if_neg (not_not_intro rfl)]
      exact if_neg entry.named
    rw [steps_eq, List.foldl_cons, List.foldl_cons, into, back, ih]

theorem head?_append_ne {s : Symbol} {p rest : Text} (front : p.head? ≠ some s)
    (next : rest.head? ≠ some s) : (p ++ rest).head? ≠ some s := by
  cases p with
  | nil => exact next
  | cons x p => exact front

theorem root_append_of_head (p : Path) {rest : Text} (front : rest.head? ≠ some (.char '/')) :
    root (p ++ rest) = root p := by
  have apart {q : Text} (other : ∀ more, q = .char '/' :: more → False) :
      (q ++ rest).head? ≠ some (.char '/') := by
    refine head?_append_ne (fun slash => ?_) front
    obtain ⟨more, split⟩ := List.head?_eq_some_iff.1 slash
    exact other more split
  fun_cases root p with
  | case1 q => rfl
  | case2 q other => exact root_append .doubled (apart other)
  | case3 q _ other => exact root_append .top (apart other)
  | case4 _ _ _ other => exact root_append .current (apart other)

end Path

namespace Route

def lead (r : Route) : Path :=
  r.root.text ++ (if r.steps = [] then [] else Text.join "/" r.steps ++ [.char '/'])

theorem text_snoc (root : Root) (steps : List Text) (last : Text) :
    Route.text ⟨root, steps ++ [last]⟩ = Route.lead ⟨root, steps⟩ ++ last := by
  have somewhere : ¬ (root = .current ∧ steps ++ [last] = []) := fun nowhere =>
    List.append_ne_nil_of_right_ne_nil steps (List.cons_ne_nil last []) nowhere.2
  rw [text, if_neg somewhere, lead]
  by_cases first : steps = []
  · simp [first, Text.join]
  · rw [if_neg first, Text.join_append first (List.cons_ne_nil _ _)]
    simp only [List.append_assoc]
    rfl

theorem isLead_lead (r : Route) : Path.IsLead r.lead := by
  unfold lead
  by_cases first : r.steps = []
  · rw [if_pos first, List.append_nil]
    cases r.root with
    | current => exact .inl rfl
    | top => exact .inr ⟨[], rfl⟩
    | doubled => exact .inr ⟨"/", rfl⟩
  · rw [if_neg first, ← List.append_assoc]
    exact .inr ⟨_, rfl⟩

end Route

namespace Path

theorem baseName_lead {d : Path} (lead : IsLead d) {name : Text} (isName : IsName name) :
    baseName (d ++ name) = name := by
  rcases lead with rfl | ⟨parent, rfl⟩
  · exact isName.baseName_eq
  · rw [List.append_assoc]
    exact baseName_slash parent isName

/-- The normal form ends in the last component that names an entry, and what stands before it is the
lead of the directory alone. -/
theorem normalize_entry {d name tail : Text} (lead : IsLead d) (entry : IsEntry name)
    (idle : Idle tail) : normalize (d ++ name ++ tail) = (route d).resolve.lead ++ name := by
  have root_eq : root (d ++ name ++ tail) = root d := by
    have next : (name ++ tail).head? ≠ some (.char '/') := by
      cases name with
      | nil => exact absurd rfl entry.filled
      | cons s name => exact fun slash => entry.unbroken (List.mem_of_head? slash)
    rw [List.append_assoc]
    exact root_append_of_head d next
  have steps_eq : steps (d ++ name ++ tail) = steps d ++ name :: steps tail := by
    rw [List.append_assoc, steps_lead lead, idle.steps_append, steps_step entry.toIsStep]
    rfl
  have resolved : (route (d ++ name ++ tail)).resolve =
      ⟨root d, (route d).resolve.steps ++ [name]⟩ := by
    unfold route Route.resolve
    rw [root_eq, steps_eq, List.foldl_append, List.foldl_cons, idle.foldl_take]
    have into : Route.take (root d) ((steps d).foldl (Route.take (root d)) []) name =
        name :: (steps d).foldl (Route.take (root d)) [] := if_pos entry.named
    rw [into, List.reverse_cons]
  rw [normalize, resolved, Route.text_snoc]
  rfl

theorem baseName_normalize_entry {d name tail : Text} (lead : IsLead d) (entry : IsEntry name)
    (idle : Idle tail) : baseName (normalize (d ++ name ++ tail)) = name := by
  rw [normalize_entry lead entry idle]
  exact baseName_lead (Route.isLead_lead _) entry.unbroken

end Path

end SandboxShell

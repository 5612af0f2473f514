import SandboxShell.Proofs.Json.Taking
import SandboxShell.Proofs.Table

/-!
Objects with their members as they stand in the text. The reader puts the members in one after the
other, so that of several under one name the last one counts.
-/

namespace SandboxShell

namespace Json

inductive ObjectAt : Nat → Text → List (Text × Json) → Text → Prop where
  | empty {room : Nat} {rest after : Text} (closed : skipGap rest = .char '\x7d' :: after) :
      ObjectAt (room + 1) (.char '\x7b' :: rest) [] after
  | members {room : Nat} {rest after : Text} {ps : List (Text × Json)}
      (unclosed : (skipGap rest).head? ≠ some (.char '\x7d'))
      (inside : Takes room (skipGap rest) (.members ps) after) :
      ObjectAt (room + 1) (.char '\x7b' :: rest) ps after

/-- A text is an object with these members, between gaps, with at most so many containers inside one
another. -/
def ObjectText (room : Nat) (t : Text) (ps : List (Text × Json)) : Prop :=
  ∃ after, ObjectAt room (skipGap t) ps after ∧ skipGap after = []

theorem ObjectAt.takes {room : Nat} {t after : Text} {ps : List (Text × Json)}
    (object : ObjectAt room t ps after) : Takes room t (.value (.object (putAll [] ps))) after := by
  cases object with
  | empty closed => exact .noMembers closed
  | members unclosed inside => exact .object unclosed inside

theorem readScalar_ne_object {t rest : Text} {members : List (Text × Json)} :
    readScalar t ≠ .ok (.object members, rest) := by
  intro read
  unfold readScalar at read
  split at read
  · rename_i word value found
    have listed := List.mem_of_find?_eq_some found
    obtain ⟨rfl, -⟩ := Prod.mk.inj (Except.ok.inj read)
    simp [constants] at listed
  · split at read
    · rename_i numeral after _
      unfold Numeral.value at read
      split at read
      · split at read <;> simp [Except.map] at read
      · simp [Except.map] at read
    · cases read

theorem objectAt_of_takes {room : Nat} {t after : Text} {members : List (Text × Json)}
    (taken : Takes room t (.value (.object members)) after) :
    ∃ ps, ObjectAt room t ps after ∧ members = putAll [] ps := by
  cases taken with
  | scalar _ read => exact absurd read readScalar_ne_object
  | noMembers closed => exact ⟨[], .empty closed, rfl⟩
  | object unclosed inside => exact ⟨_, .members unclosed inside, rfl⟩

theorem not_marked_of_opened {t rest : Text} (opened : skipGap t = .char '\x7b' :: rest) :
    ¬ Marked t := by
  intro marked
  obtain ⟨more, rfl⟩ := List.head?_eq_some_iff.1 marked
  cases opened

theorem read_eq_object_iff {room : Nat} {t : Text} {members : List (Text × Json)} :
    read room t = .ok (.object members) ↔
      ∃ ps, ObjectText room t ps ∧ members = putAll [] ps := by
  rw [read_eq_ok_iff]
  constructor
  · rintro ⟨-, after, taken, ended⟩
    obtain ⟨ps, object, same⟩ := objectAt_of_takes taken
    exact ⟨ps, ⟨after, object, ended⟩, same⟩
  · rintro ⟨ps, ⟨after, object, ended⟩, rfl⟩
    refine ⟨?_, after, object.takes, ended⟩
    generalize opened : skipGap t = whole at object
    cases object with
    | empty | members => exact not_marked_of_opened opened

theorem find?_putAll (name : Text) (done ps : List (Text × Json)) :
    Entries.find? name (putAll done ps) =
      (Entries.find? name ps.reverse).orElse fun _ => Entries.find? name done := by
  induction ps generalizing done with
  | nil => rfl
  | cons p ps ih =>
    show Entries.find? name (putAll (Entries.put p.1 p.2 done) ps) = _
    rw [ih, List.reverse_cons, Entries.find?_append, Entries.find?_put]
    cases Entries.find? name ps.reverse with
    | some v => rfl
    | none =>
      show _ = (Entries.find? name [p]).orElse _
      unfold Entries.find?
      split
      · rename_i same
        rw [if_pos same.symm]
        rfl
      · rename_i other
        rw [if_neg (Ne.symm other)]
        rfl

end Json

end SandboxShell

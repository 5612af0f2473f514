import SandboxShell.Proofs.Json.Limit
import SandboxShell.Proofs.Json.Shown

/-!
Values that are nested too deep. What is written for one is a JSON text like any other, but a reader
with less room than it takes comes, past all that there is room for, to a list or an object that there
is none for, and does not come to what stands after it.
-/

namespace SandboxShell

namespace Json

variable {room full : Nat}

def Overfills (room : Nat) (place : Place) (t : Text) : Prop :=
  ∃ u opened, Meets room place t 0 u ∧ PastLimit 0 u (.tooDeep opened)

theorem Overfills.map {room' : Nat} {place place' : Place} {t t' : Text}
    (overfull : Overfills room place t)
    (step : ∀ u, Meets room place t 0 u → Meets room' place' t' 0 u) :
    Overfills room' place' t' := by
  obtain ⟨u, opened, met, past⟩ := overfull
  exact ⟨u, opened, step u met, past⟩

/-- A value that there is room for, or one whose written form has a container that there is none
for. -/
def FitsOrOverfills (room : Nat) (v : Json) : Prop :=
  ¬ Within room v → ∀ rest, Overfills room .value (written v ++ rest)

theorem ReadsBack.begins {v : Json} (reads : ReadsBack full v) :
    ∃ s more, written v = s :: more ∧ Begins s := by
  obtain ⟨w, taken, -⟩ := reads [.char ']'] (not_continues_mark (by decide) [])
  obtain ⟨s, more, split, begins⟩ := taken.begins
  cases text : written v with
  | nil =>
    rw [text] at split
    exact absurd (List.cons.inj split).1.symm begins.2.1
  | cons first after =>
    rw [text] at split
    obtain rfl := (List.cons.inj split).1
    exact ⟨first, after, rfl, begins⟩

theorem ReadsBack.skipBlank {v : Json} (reads : ReadsBack full v) (rest : Text) :
    skipGap (.char ' ' :: (written v ++ rest)) = written v ++ rest := by
  obtain ⟨s, more, text, solid, -⟩ := reads.begins
  rw [text]
  exact skipGap_of_solid solid _

theorem join_starts (separator first : Text) (parts : List Text) (rest : Text) :
    ∃ more, Text.join separator (first :: parts) ++ rest = first ++ more := by
  cases parts with
  | nil => exact ⟨rest, rfl⟩
  | cons second parts =>
    rw [Text.join, List.append_assoc, List.append_assoc]
    exact ⟨_, rfl⟩

theorem overfills_items {items : List Json} (inside : ∀ v ∈ items, ReadsBack full v)
    (each : ∀ v ∈ items, FitsOrOverfills room v) (overfull : ¬ ∀ v ∈ items, Within room v)
    (rest : Text) :
    Overfills room .items (Text.join ", " (writtenItems items) ++ .char ']' :: rest) := by
  induction items with
  | nil => exact absurd (fun _ member => nomatch member) overfull
  | cons v items ih =>
    by_cases here : Within room v
    · have later : ¬ ∀ u ∈ items, Within room u := fun all =>
        overfull (List.forall_mem_cons.2 ⟨here, all⟩)
      have others := ih (fun u member => inside u (.tail _ member))
        (fun u member => each u (.tail _ member)) later
      cases items with
      | nil => exact absurd (fun _ member => nomatch member) later
      | cons u items =>
        obtain ⟨w, taken, -⟩ := readsBack here _ (not_continues_mark (.inl rfl) _)
        obtain ⟨vs, whole⟩ := takes_items (List.cons_ne_nil u items)
          (fun u member => inside u (.tail _ member)) rest
        rw [← whole.skipGap_eq] at others
        refine others.map fun t met => ?_
        show Meets room .items (Text.join ", " (written v :: written u :: writtenItems items) ++ _) 0 t
        rw [join_more]
        exact .laterItem taken (skipGap_of_solid rfl _) met
    · obtain ⟨more, start⟩ := join_starts ", " (written v) (writtenItems items) (.char ']' :: rest)
      rw [writtenItems, start]
      exact (each v List.mem_cons_self here more).map fun t met => .thisItem met

theorem overfills_members {members : List (Text × Json)}
    (inside : ∀ member ∈ members, ReadsBack full member.2)
    (each : ∀ member ∈ members, FitsOrOverfills room member.2)
    (overfull : ¬ ∀ member ∈ members, Within room member.2) (rest : Text) :
    Overfills room .members (Text.join ", " (writtenMembers members) ++ .char '\x7d' :: rest) := by
  induction members with
  | nil => exact absurd (fun _ member => nomatch member) overfull
  | cons member members ih =>
    obtain ⟨name, v⟩ := member
    by_cases here : Within room v
    · have later : ¬ ∀ member ∈ members, Within room member.2 := fun all =>
        overfull (List.forall_mem_cons.2 ⟨here, all⟩)
      have others := ih (fun u member => inside u (.tail _ member))
        (fun u member => each u (.tail _ member)) later
      cases members with
      | nil => exact absurd (fun _ member => nomatch member) later
      | cons other members =>
        obtain ⟨w, taken, -⟩ := readsBack here _ (not_continues_mark (.inl rfl) _)
        obtain ⟨ps, whole, -⟩ := takes_members (List.cons_ne_nil other members)
          (fun u member => inside u (.tail _ member)) rest
        rw [← whole.skipGap_eq] at others
        refine others.map fun t met => ?_
        show Meets room .members (Text.join ", " ((writtenString name ++ ": " ++ written v) ::
          (writtenString other.1 ++ ": " ++ written other.2) :: writtenMembers members) ++ _) 0 t
        rw [join_more, written_member]
        exact .laterMember (readString_written _ _ _) (skipGap_of_solid rfl _) taken.afterBlank
          (skipGap_of_solid rfl _) met
    · obtain ⟨more, start⟩ := join_starts ", " (writtenString name ++ ": " ++ written v)
        (writtenMembers members) (.char '\x7d' :: rest)
      have gapless := (inside (name, v) List.mem_cons_self).skipBlank more
      rw [writtenMembers, start, written_member]
      refine (each (name, v) List.mem_cons_self here more).map fun t met => ?_
      exact .thisMember (readString_written _ _ _) (skipGap_of_solid rfl _) (gapless.symm ▸ met)

theorem fitsOrOverfills {v : Json} (within : Within full v) :
    ∀ room, FitsOrOverfills room v := by
  induction within with
  | null => exact fun room deep => absurd .null deep
  | bool b => exact fun room deep => absurd (.bool b) deep
  | integer n short => exact fun room deep => absurd (.integer n short) deep
  | real x => exact fun room deep => absurd (.real x) deep
  | string t => exact fun room deep => absurd (.string t) deep
  | @array full items inside ih =>
    intro room deep rest
    rw [written_array]
    cases room with
    | zero => exact ⟨_, .array, .here 0 _, .array _⟩
    | succ room =>
      have overfull : ¬ ∀ v ∈ items, Within room v := fun all => deep (.array all)
      have filled : items ≠ [] := by
        rintro rfl
        exact overfull fun _ member => nomatch member
      have reads := fun v member => readsBack (inside v member)
      obtain ⟨vs, taken⟩ := takes_items filled reads rest
      obtain ⟨s, more, same, -, unclosed, -⟩ := taken.begins
      have gapless := taken.skipGap_eq
      have items := overfills_items reads (fun v member => ih v member room) overfull rest
      rw [← gapless] at items
      refine items.map fun t met => .array ?_ met
      rw [gapless, same]
      exact fun closed => unclosed (Option.some.inj closed)
  | @object full members inside ih =>
    intro room deep rest
    rw [written_object]
    cases room with
    | zero => exact ⟨_, .object, .here 0 _, .object _⟩
    | succ room =>
      have overfull : ¬ ∀ member ∈ members, Within room member.2 := fun all => deep (.object all)
      have filled : members ≠ [] := by
        rintro rfl
        exact overfull fun _ member => nomatch member
      have reads := fun member listed => readsBack (inside member listed)
      obtain ⟨ps, taken, -⟩ := takes_members filled reads rest
      obtain ⟨s, more, same, -, -, unclosed⟩ := taken.begins
      have gapless := taken.skipGap_eq
      have members := overfills_members reads (fun v member => ih v member room) overfull rest
      rw [← gapless] at members
      refine members.map fun t met => .object ?_ met
      rw [gapless, same]
      exact fun closed => unclosed (Option.some.inj closed)

theorem read_deep {v : Json} (within : Within full v) (deep : ¬ Within room v) :
    ∃ opened, read room (written v) = .error (.tooDeep opened) := by
  obtain ⟨t, opened, met, past⟩ := fitsOrOverfills within room deep []
  have reads := readsBack within
  obtain ⟨s, more, text, solid, -⟩ := reads.begins
  have shown := shown_written within
  rw [List.append_nil] at met
  have gapless : skipGap (written v) = written v := by
    rw [text]
    exact skipGap_of_solid solid more
  have unmarked : ¬ Marked (written v) := fun marked => by
    have mark := shown _ (List.mem_of_head? marked)
    exact absurd mark (by decide)
  rw [← gapless] at met
  exact ⟨opened, (read_limit_iff rfl).2 ⟨unmarked, 0, t, met, past⟩⟩

/-- An empty list inside `n` others. -/
def nested : Nat → Json
  | 0 => .array []
  | n + 1 => .array [nested n]

theorem within_nested_iff (room n : Nat) : Within room (nested n) ↔ n < room := by
  induction n generalizing room with
  | zero =>
    cases room with
    | zero => exact iff_of_false (fun within => nomatch within) (Nat.lt_irrefl 0)
    | succ room => exact iff_of_true (.array fun _ member => nomatch member) (Nat.succ_pos room)
  | succ n ih =>
    cases room with
    | zero => exact iff_of_false (fun within => nomatch within) (Nat.not_lt_zero _)
    | succ room =>
      rw [Nat.succ_lt_succ_iff, ← ih room]
      constructor
      · rintro (_ | _ | _ | _ | _ | inside)
        exact inside _ List.mem_cons_self
      · exact fun within => .array (List.forall_mem_singleton.2 within)

end Json

end SandboxShell

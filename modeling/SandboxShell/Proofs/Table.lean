import SandboxShell.Table

/-!
Tables made from pairs. Pairs of distinct names make up the table that lists them in their order,
and to put in a value that stands there already changes nothing.
-/

namespace SandboxShell

namespace Entries

variable {α : Type}

theorem put_fresh {name : Text} (value : α) {entries : List (Text × α)}
    (fresh : name ∉ entries.map Prod.fst) :
    put name value entries = entries ++ [(name, value)] := by
  induction entries with
  | nil => rfl
  | cons entry rest ih =>
    rw [List.map_cons, List.mem_cons, not_or] at fresh
    rw [put, if_neg (Ne.symm fresh.1), ih fresh.2]
    rfl

theorem put_same {name : Text} {value : α} {entries : List (Text × α)}
    (holds : find? name entries = some value) : put name value entries = entries := by
  induction entries with
  | nil => cases holds
  | cons entry rest ih =>
    rw [find?] at holds
    rw [put]
    by_cases here : entry.1 = name
    · rw [if_pos here] at holds ⊢
      rw [← here, ← Option.some.inj holds]
    · rw [if_neg here] at holds ⊢
      rw [ih holds]

theorem find?_eq_none {name : Text} {entries : List (Text × α)}
    (missing : name ∉ entries.map Prod.fst) : find? name entries = none := by
  induction entries with
  | nil => rfl
  | cons entry rest ih =>
    rw [List.map_cons, List.mem_cons, not_or] at missing
    rw [find?, if_neg (Ne.symm missing.1), ih missing.2]

theorem mem_of_find? {name : Text} {value : α} {entries : List (Text × α)}
    (found : find? name entries = some value) : (name, value) ∈ entries := by
  induction entries with
  | nil => cases found
  | cons entry rest ih =>
    rw [find?] at found
    split at found
    · rename_i here
      obtain rfl := Option.some.inj found
      exact here ▸ List.mem_cons_self
    · exact List.mem_cons_of_mem _ (ih found)

theorem find?_append (name : Text) (first second : List (Text × α)) :
    find? name (first ++ second) = (find? name first).orElse fun _ => find? name second := by
  induction first with
  | nil => rfl
  | cons entry rest ih =>
    rw [List.cons_append, find?, find?]
    split
    · rfl
    · exact ih

theorem find?_eq_some {name : Text} {value : α} {entries : List (Text × α)}
    (present : ∃ entry ∈ entries, entry.1 = name)
    (only : ∀ entry ∈ entries, entry.1 = name → entry.2 = value) :
    find? name entries = some value := by
  induction entries with
  | nil =>
    obtain ⟨entry, member, -⟩ := present
    cases member
  | cons entry rest ih =>
    rw [find?]
    split
    · rename_i here
      rw [only entry List.mem_cons_self here]
    · rename_i other
      refine ih ?_ fun later member => only later (List.mem_cons_of_mem _ member)
      obtain ⟨found, member, named⟩ := present
      rcases List.mem_cons.1 member with rfl | later
      · exact absurd named other
      · exact ⟨found, later, named⟩

end Entries

namespace Table

variable {α : Type}

theorem eq_of_entries {t u : Table α} (same : t.entries = u.entries) : t = u := by
  cases t
  cases u
  cases same
  rfl

theorem entries_putAll {t : Table α} {pairs : List (Text × α)}
    (distinct : ((t.entries ++ pairs).map Prod.fst).Nodup) :
    (t.putAll pairs).entries = t.entries ++ pairs := by
  induction pairs generalizing t with
  | nil => exact (List.append_nil t.entries).symm
  | cons pair rest ih =>
    have split : t.entries ++ pair :: rest = (t.entries ++ [pair]) ++ rest := by
      rw [List.append_assoc, List.singleton_append]
    have fresh : pair.1 ∉ t.entries.map Prod.fst := by
      rw [List.map_append, List.nodup_append] at distinct
      intro member
      exact distinct.2.2 _ member _ List.mem_cons_self rfl
    have here : (t.put pair.1 pair.2).entries = t.entries ++ [pair] := Entries.put_fresh _ fresh
    show ((t.put pair.1 pair.2).putAll rest).entries = _
    rw [split] at distinct ⊢
    rw [← here] at distinct ⊢
    exact ih distinct

theorem ofList_entries (t : Table α) : ofList t.entries = t := by
  have listed : (empty.putAll t.entries).entries = empty.entries ++ t.entries :=
    entries_putAll t.distinct
  exact eq_of_entries listed

theorem ofList_append (first second : List (Text × α)) :
    ofList (first ++ second) = (ofList first).putAll second := List.foldl_append

theorem put_same {t : Table α} {name : Text} {value : α} (holds : t.find? name = some value) :
    t.put name value = t :=
  eq_of_entries (Entries.put_same holds)

theorem mem_names_putAll (t : Table α) (pairs : List (Text × α)) (name : Text) :
    name ∈ (t.putAll pairs).names ↔ name ∈ t.names ∨ name ∈ pairs.map Prod.fst := by
  induction pairs generalizing t with
  | nil => simp [putAll]
  | cons pair rest ih =>
    show name ∈ ((t.put pair.1 pair.2).putAll rest).names ↔ _
    rw [ih, mem_names_put, List.map_cons, List.mem_cons, or_left_comm, or_assoc]

theorem find?_putAll_of_not_mem (t : Table α) {pairs : List (Text × α)} {name : Text}
    (other : name ∉ pairs.map Prod.fst) : (t.putAll pairs).find? name = t.find? name := by
  induction pairs generalizing t with
  | nil => rfl
  | cons pair rest ih =>
    rw [List.map_cons, List.mem_cons, not_or] at other
    show ((t.put pair.1 pair.2).putAll rest).find? name = _
    rw [ih _ other.2, find?_put, if_neg other.1]

theorem find?_putAll_of_mem (t : Table α) {pairs : List (Text × α)}
    (distinct : (pairs.map Prod.fst).Nodup) {pair : Text × α} (member : pair ∈ pairs) :
    (t.putAll pairs).find? pair.1 = some pair.2 := by
  induction pairs generalizing t with
  | nil => cases member
  | cons first rest ih =>
    rw [List.map_cons, List.nodup_cons] at distinct
    show ((t.put first.1 first.2).putAll rest).find? pair.1 = _
    rcases List.mem_cons.1 member with rfl | later
    · rw [find?_putAll_of_not_mem _ distinct.1, find?_put, if_pos rfl]
    · exact ih _ distinct.2 later

theorem putAll_same {t : Table α} {pairs : List (Text × α)}
    (hold : ∀ pair ∈ pairs, t.find? pair.1 = some pair.2) : t.putAll pairs = t := by
  induction pairs with
  | nil => rfl
  | cons pair rest ih =>
    show (t.put pair.1 pair.2).putAll rest = t
    rw [put_same (hold pair List.mem_cons_self)]
    exact ih fun other member => hold other (List.mem_cons_of_mem _ member)

end Table

end SandboxShell

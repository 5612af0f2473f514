import SandboxShell.Text.Basic

/-!
Tables from names to values. A table remembers the order in which its names were first put in, and
holds each name once: putting a name that is there already replaces its value where it stands.
-/

namespace SandboxShell

namespace Entries

variable {α : Type}

/-- Replaces the value of `name` where it stands, or puts the pair last. -/
def put (name : Text) (value : α) : List (Text × α) → List (Text × α)
  | [] => [(name, value)]
  | (n, v) :: rest => if n = name then (name, value) :: rest else (n, v) :: put name value rest

def remove (name : Text) (entries : List (Text × α)) : List (Text × α) :=
  entries.filter fun entry => entry.1 ≠ name

def find? (name : Text) : List (Text × α) → Option α
  | [] => none
  | (n, v) :: rest => if n = name then some v else find? name rest

theorem mem_names_put (name : Text) (value : α) (entries : List (Text × α)) (n : Text) :
    n ∈ (put name value entries).map Prod.fst ↔ n = name ∨ n ∈ entries.map Prod.fst := by
  induction entries with
  | nil => simp [put]
  | cons entry rest ih =>
    obtain ⟨m, v⟩ := entry
    by_cases same : m = name
    · simp [put, same]
    · simp only [put, same, if_false, List.map_cons, List.mem_cons, ih]
      constructor <;> (intro h; rcases h with h | h | h <;> simp [h])

theorem nodup_put (name : Text) (value : α) (entries : List (Text × α))
    (distinct : (entries.map Prod.fst).Nodup) :
    ((put name value entries).map Prod.fst).Nodup := by
  induction entries with
  | nil => simp [put]
  | cons entry rest ih =>
    obtain ⟨m, v⟩ := entry
    simp only [List.map_cons, List.nodup_cons] at distinct
    by_cases same : m = name
    · simp only [put, same, if_true, List.map_cons, List.nodup_cons]
      exact ⟨same ▸ distinct.1, distinct.2⟩
    · simp only [put, same, if_false, List.map_cons, List.nodup_cons]
      refine ⟨?_, ih distinct.2⟩
      rw [mem_names_put]
      simp [same, distinct.1]

theorem find?_put (name : Text) (value : α) (entries : List (Text × α)) (n : Text) :
    find? n (put name value entries) = if n = name then some value else find? n entries := by
  induction entries with
  | nil => simp only [put, find?, eq_comm]
  | cons entry rest ih =>
    obtain ⟨m, v⟩ := entry
    by_cases same : m = name
    · subst same
      by_cases asked : n = m
      · simp [put, find?, asked]
      · simp [put, find?, asked, Ne.symm asked]
    · by_cases asked : n = name
      · subst asked
        simp [put, find?, same, ih]
      · simp [put, find?, same, asked, ih]

theorem nodup_remove (name : Text) (entries : List (Text × α))
    (distinct : (entries.map Prod.fst).Nodup) :
    ((remove name entries).map Prod.fst).Nodup :=
  distinct.sublist (List.filter_sublist.map Prod.fst)

end Entries

/-- A value for each of finitely many names, in the order in which the names came. -/
structure Table (α : Type) where
  entries : List (Text × α)
  distinct : (entries.map Prod.fst).Nodup

namespace Table

variable {α : Type}

def empty : Table α := ⟨[], List.nodup_nil⟩

def put (t : Table α) (name : Text) (value : α) : Table α :=
  ⟨Entries.put name value t.entries, Entries.nodup_put name value t.entries t.distinct⟩

def remove (t : Table α) (name : Text) : Table α :=
  ⟨Entries.remove name t.entries, Entries.nodup_remove name t.entries t.distinct⟩

def find? (t : Table α) (name : Text) : Option α := Entries.find? name t.entries

def names (t : Table α) : List Text := t.entries.map Prod.fst

@[simp] theorem find?_put (t : Table α) (name : Text) (value : α) (n : Text) :
    (t.put name value).find? n = if n = name then some value else t.find? n :=
  Entries.find?_put name value t.entries n

theorem mem_names_put (t : Table α) (name : Text) (value : α) (n : Text) :
    n ∈ (t.put name value).names ↔ n = name ∨ n ∈ t.names :=
  Entries.mem_names_put name value t.entries n

def putAll (t : Table α) (pairs : List (Text × α)) : Table α :=
  pairs.foldl (fun table pair => table.put pair.1 pair.2) t

def ofList (pairs : List (Text × α)) : Table α := empty.putAll pairs

end Table

end SandboxShell

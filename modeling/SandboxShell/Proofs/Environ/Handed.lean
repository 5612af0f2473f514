import SandboxShell.Environ.Inherited
import SandboxShell.Proofs.Path.Resolved
import SandboxShell.Proofs.Shell.Detection
import SandboxShell.Proofs.Table
import SandboxShell.Proofs.Text.Pieces

/-!
The environment that the sandbox tool is started with. It is the environment of the program with
three variables put in, and it is its own: handed on once more, it stays as it is. A session started
again from inside the sandbox therefore sees what the first one saw, its shell included.
-/

namespace SandboxShell

namespace Environ

def WellNamed (e : Environ) : Prop := ∀ name ∈ e.names, Symbol.char '=' ∉ name

def handed (e : Environ) : Environ := ofEntries e.sessionEntries

def sessionNames : List Text := [parentPath, "NIX_PROFILES", sourcedMarker]

theorem entryName_entry {name : Text} (value : Text) (named : Symbol.char '=' ∉ name) :
    entryName (entry name value) = name := by
  unfold entryName entry
  rw [List.append_assoc]
  exact Text.before_mark named value

theorem entryValue_entry {name : Text} (value : Text) (named : Symbol.char '=' ∉ name) :
    entryValue (entry name value) = value := by
  unfold entryValue entry
  rw [List.append_assoc]
  exact Text.after_mark named value

def sessionPairs (e : Environ) : List (Text × Text) :=
  [(parentPath, e.handedPath), ("NIX_PROFILES", Text.join " " e.profiles), (sourcedMarker, "1")]

theorem sessionEntries_eq (e : Environ) :
    e.sessionEntries = (e.entries ++ e.sessionPairs).map fun pair => entry pair.1 pair.2 := by
  rw [List.map_append]
  rfl

theorem unmarked_of_mem_session {name : Text} (member : name ∈ sessionNames) :
    Symbol.char '=' ∉ name := by
  simp only [sessionNames, List.mem_cons, List.not_mem_nil, or_false] at member
  rcases member with rfl | rfl | rfl <;> decide

theorem unmarked_of_mem_pairs {e : Environ} (named : e.WellNamed) {pair : Text × Text}
    (member : pair ∈ e.entries ++ e.sessionPairs) : Symbol.char '=' ∉ pair.1 := by
  rcases List.mem_append.1 member with passed | session
  · exact named pair.1 (List.mem_map_of_mem passed)
  · have listed : pair.1 ∈ e.sessionPairs.map Prod.fst := List.mem_map_of_mem session
    exact unmarked_of_mem_session listed

/-- What the tool gets is the environment of the program with three variables put in. -/
theorem handed_eq {e : Environ} (named : e.WellNamed) : e.handed = e.putAll e.sessionPairs := by
  have parts : e.sessionEntries.map (fun line => (entryName line, entryValue line)) =
      e.entries ++ e.sessionPairs := by
    rw [sessionEntries_eq, List.map_map]
    refine (List.map_congr_left fun pair member => ?_).trans (List.map_id _)
    have unmarked := unmarked_of_mem_pairs named member
    exact Prod.ext (entryName_entry _ unmarked) (entryValue_entry _ unmarked)
  unfold handed ofEntries
  rw [parts, Table.ofList_append, Table.ofList_entries]

theorem mem_names_handed {e : Environ} (named : e.WellNamed) (name : Text) :
    name ∈ e.handed.names ↔ name ∈ e.names ∨ name ∈ sessionNames := by
  rw [handed_eq named]
  exact Table.mem_names_putAll e e.sessionPairs name

theorem find?_handed_of_not_mem {e : Environ} (named : e.WellNamed) {name : Text}
    (other : name ∉ sessionNames) : e.handed.find? name = e.find? name := by
  rw [handed_eq named]
  exact Table.find?_putAll_of_not_mem e other

theorem find?_handed {e : Environ} (named : e.WellNamed) :
    ∀ pair ∈ e.sessionPairs, e.handed.find? pair.1 = some pair.2 := by
  have distinct : (e.sessionPairs.map Prod.fst).Nodup := (by decide : sessionNames.Nodup)
  intro pair member
  rw [handed_eq named]
  exact Table.find?_putAll_of_mem e distinct member

theorem WellNamed.handed {e : Environ} (named : e.WellNamed) : e.handed.WellNamed := by
  intro name member
  rcases (mem_names_handed named name).1 member with passed | session
  · exact named name passed
  · exact unmarked_of_mem_session session

theorem value_eq_of_find? {one two : Environ} {name : Text} (same : one.find? name = two.find? name) :
    one.value name = two.value name := congrArg (Option.getD · []) same

theorem profileDirectories_join (list : Text) :
    profileDirectories (Text.join " " (profileDirectories list)) = profileDirectories list := by
  have normal {p : Path} (member : p ∈ profileDirectories list) : ∃ word ∈ list.words,
      Path.normalize word = p := List.mem_map.1 member
  have filled : ∀ p ∈ profileDirectories list, p ≠ [] := by
    intro p member
    obtain ⟨word, -, rfl⟩ := normal member
    exact Path.normalize_ne_nil word
  have unbroken : ∀ p ∈ profileDirectories list, ∀ s ∈ p, s.isBlank = false := by
    intro p member s inside
    obtain ⟨word, listed, rfl⟩ := normal member
    rcases Path.mem_normalize inside with rfl | rfl | within
    · rfl
    · rfl
    · exact (Text.mem_words listed).2 s within
  unfold profileDirectories at *
  rw [Text.words_join filled unbroken, List.map_map]
  exact List.map_congr_left fun word _ => Path.normalize_normalize word

theorem sessionPairs_handed {e : Environ} (named : e.WellNamed) :
    e.handed.sessionPairs = e.sessionPairs := by
  have path : e.handed.value "PATH" = e.value "PATH" :=
    value_eq_of_find? (find?_handed_of_not_mem named (by decide))
  have list : e.handed.value "NIX_PROFILES" = Text.join " " e.profiles :=
    congrArg (Option.getD · []) (find?_handed named ("NIX_PROFILES", _) (by simp [sessionPairs]))
  have directories : e.handed.profiles = e.profiles := by
    unfold profiles
    rw [list]
    exact profileDirectories_join _
  unfold sessionPairs handedPath
  rw [path, directories]

theorem handed_handed {e : Environ} (named : e.WellNamed) : e.handed.handed = e.handed := by
  rw [handed_eq named.handed, sessionPairs_handed named]
  exact Table.putAll_same (find?_handed named)

/-- A session started from inside the sandbox sees what the first one saw. -/
theorem handed_restarts (e : Environ) (named : e.WellNamed) :
    (∀ name, name ∈ e.handed.names ↔ name ∈ e.names ∨ name ∈ sessionNames) ∧
    (∀ name, name ∉ sessionNames → e.handed.find? name = e.find? name) ∧
    e.handed.find? parentPath = some e.handedPath ∧
    e.handed.find? "NIX_PROFILES" = some (Text.join " " e.profiles) ∧
    e.handed.find? sourcedMarker = some "1" ∧
    e.handed.handed = e.handed ∧
    ∀ settings p, ShellProfile.detect? e settings = some p →
      ShellProfile.detect? (e.handed.put "SHELL" p.program) settings = some p := by
  have found := find?_handed named
  simp only [sessionPairs, List.forall_mem_cons] at found
  refine ⟨mem_names_handed named, fun name => find?_handed_of_not_mem named, found.1, found.2.1,
    found.2.2.1, handed_handed named, fun settings p detected => ?_⟩
  have kept (name : Text) (other : name ∉ sessionNames) (different : name ≠ "SHELL") :
      e.value name = value (e.handed.put "SHELL" p.program) name := by
    apply value_eq_of_find?
    rw [Table.find?_put, if_neg different, find?_handed_of_not_mem named other]
  have shell : value (e.handed.put "SHELL" p.program) "SHELL" = p.program := by
    unfold value
    rw [Table.find?_put, if_pos rfl]
    rfl
  have home := kept "HOME" (by decide) (by decide)
  have startup := kept "ENV" (by decide) (by decide)
  exact ShellProfile.detect?_program detected shell home startup

/-- A path with steps back, a value with an equals sign, and a search path of the parent's that does
not last. -/
theorem handed_restarts_relative :
    let e : Environ := Table.ofList
      [("PARENT_PATH", "/old"), ("SHELL", "//opt/../bin/-ksh"), ("HOME", "/h"), ("OPTS", "a=b=c"),
        ("NIX_PROFILES", " /nix//p \t q/. "), ("PATH", "/nix/p/bin:bin:/usr/bin")]
    let p : ShellProfile := { kind := .ksh, program := "//bin/-ksh", startupPath := "/h/.kshrc" }
    e.WellNamed ∧ ShellProfile.detect? e [] = some p ∧
      e.handed.find? "OPTS" = some "a=b=c" ∧ e.handed.find? parentPath = some "/usr/bin" ∧
      e.handed.find? "NIX_PROFILES" = some "/nix/p q" ∧ e.handed.handed = e.handed ∧
      ShellProfile.detect? (e.handed.put "SHELL" "//bin/-ksh") [] = some p := by
  intro e p
  have named : e.WellNamed := by
    unfold WellNamed
    decide
  have detected : ShellProfile.detect? e [] = some p := by decide
  obtain ⟨-, others, path, profiles, -, again, restarted⟩ := handed_restarts e named
  refine ⟨named, detected, (others "OPTS" (by decide)).trans (by decide), path.trans ?_,
    profiles.trans ?_, again, restarted [] p detected⟩
  · decide
  · decide

end Environ

end SandboxShell

import SandboxShell.Environ.Inherited
import SandboxShell.Proofs.Path.Direct

/-!
Cleaned search paths. Cut at its colons, a cleaned search path gives back exactly the entries that it
was made of, each one direct, so that a shell reads from it what was put in and nothing else. Cleaning
what is clean already takes away only what the new profiles hold, and cleaning a search path of two
parts is cleaning each of them.
-/

namespace SandboxShell

namespace Environ

/-- The entries of a search path; an empty one has none. -/
def searchEntries (searchPath : Text) : List Path :=
  if searchPath = [] then [] else Text.splitOn ':' searchPath

theorem isProfilePath_iff {profiles : List Path} {p : Path} :
    isProfilePath profiles p = true ↔ ∃ d ∈ profiles, d <+: p := by
  simp [isProfilePath, Text.startsWith]

theorem cleanEntries_eq (searchPath : Text) (profiles : List Path) :
    cleanEntries searchPath profiles =
      ((Text.splitOn ':' searchPath).filter fun raw =>
        Path.isAbsolute raw && !isProfilePath profiles (Path.normalize raw)).map Path.normalize := by
  unfold cleanEntries
  rw [List.filter_map]
  congr 1
  apply List.filter_congr
  intro raw _
  simp only [Function.comp_apply, Path.isAbsolute_normalize]

theorem mem_cleanEntries {searchPath : Text} {profiles : List Path} {p : Path} :
    p ∈ cleanEntries searchPath profiles ↔ ∃ raw ∈ Text.splitOn ':' searchPath,
      Path.isAbsolute raw = true ∧ isProfilePath profiles (Path.normalize raw) = false ∧
        Path.normalize raw = p := by
  simp [cleanEntries_eq, and_assoc]

section Clean

variable {searchPath : Text} {profiles : List Path} {p : Path}

theorem filled_of_mem_clean (member : p ∈ cleanEntries searchPath profiles) : p ≠ [] := by
  obtain ⟨raw, -, -, -, rfl⟩ := mem_cleanEntries.1 member
  exact Path.normalize_ne_nil raw

theorem normal_of_mem_clean (member : p ∈ cleanEntries searchPath profiles) :
    Path.normalize p = p := by
  obtain ⟨raw, -, -, -, rfl⟩ := mem_cleanEntries.1 member
  exact Path.normalize_normalize raw

theorem direct_of_mem_clean (member : p ∈ cleanEntries searchPath profiles) :
    ∃ names, p.Direct (Path.root p) names := by
  obtain ⟨raw, -, absolute, -, rfl⟩ := mem_cleanEntries.1 member
  rw [Path.root_normalize]
  exact ⟨_, Path.direct_normalize absolute⟩

theorem unmarked_of_mem_clean (member : p ∈ cleanEntries searchPath profiles) :
    Symbol.char ':' ∉ p := by
  obtain ⟨raw, piece, -, -, rfl⟩ := mem_cleanEntries.1 member
  intro colon
  rcases Path.mem_normalize colon with slash | dot | inside
  · cases slash
  · cases dot
  · have unmarked := (Text.mem_pieces piece _ inside).2
    simp at unmarked

end Clean

theorem cleanSearchPath_eq_nil_iff {searchPath : Text} {profiles : List Path} :
    cleanSearchPath searchPath profiles = [] ↔ cleanEntries searchPath profiles = [] := by
  constructor
  · intro empty
    rcases Text.join_eq_nil empty with none | hollow
    · exact none
    · exact absurd rfl (filled_of_mem_clean hollow)
  · intro none
    unfold cleanSearchPath
    rw [none]
    rfl

theorem searchEntries_cleanSearchPath (searchPath : Text) (profiles : List Path) :
    searchEntries (cleanSearchPath searchPath profiles) = cleanEntries searchPath profiles := by
  unfold searchEntries
  split
  · rename_i empty
    exact (cleanSearchPath_eq_nil_iff.1 empty).symm
  · rename_i filled
    exact Text.splitOn_join (mt cleanSearchPath_eq_nil_iff.2 filled)
      fun p member => unmarked_of_mem_clean member

theorem cleanEntries_searchEntries (searchPath : Text) (profiles : List Path) :
    cleanEntries searchPath profiles =
      ((searchEntries searchPath).map Path.normalize).filter fun p =>
        Path.isAbsolute p && !isProfilePath profiles p := by
  unfold searchEntries
  split
  · rename_i empty
    subst empty
    have dot : Path.isAbsolute (Path.normalize []) = false := by decide
    simp [cleanEntries, Text.splitOn, Text.pieces, Text.cut, dot]
  · rfl

theorem cleanEntries_append (one two : Text) (profiles : List Path) :
    cleanEntries (one ++ Text.ofString ":" ++ two) profiles =
      cleanEntries one profiles ++ cleanEntries two profiles := by
  unfold cleanEntries
  rw [← List.filter_append, ← List.map_append]
  congr 2
  exact Text.splitOn_append ':' one two

theorem isProfilePath_append (ds es : List Path) (p : Path) :
    isProfilePath (ds ++ es) p = (isProfilePath ds p || isProfilePath es p) := List.any_append

theorem cleanEntries_cleanSearchPath (searchPath : Text) (ds es : List Path) :
    cleanEntries (cleanSearchPath searchPath ds) es = cleanEntries searchPath (ds ++ es) := by
  have normal : (cleanEntries searchPath ds).map Path.normalize = cleanEntries searchPath ds :=
    (List.map_congr_left fun _ member => normal_of_mem_clean member).trans (List.map_id _)
  rw [cleanEntries_searchEntries, searchEntries_cleanSearchPath, normal]
  unfold cleanEntries
  rw [List.filter_filter]
  apply List.filter_congr
  intro p _
  rw [isProfilePath_append]
  cases Path.isAbsolute p <;> cases isProfilePath ds p <;> simp

theorem isProfilePath_congr {ds es : List Path} (same : ∀ d, d ∈ ds ↔ d ∈ es) :
    isProfilePath ds = isProfilePath es := by
  funext p
  rw [Bool.eq_iff_iff, isProfilePath_iff, isProfilePath_iff]
  simp only [same]

theorem cleanSearchPath_congr (searchPath : Text) {ds es : List Path}
    (same : ∀ d, d ∈ ds ↔ d ∈ es) :
    cleanSearchPath searchPath ds = cleanSearchPath searchPath es := by
  unfold cleanSearchPath cleanEntries
  rw [isProfilePath_congr same]

theorem cleanSearchPath_append (one two : Text) (profiles : List Path) :
    cleanSearchPath (one ++ Text.ofString ":" ++ two) profiles =
      Text.join ":" ([cleanSearchPath one profiles, cleanSearchPath two profiles].filter (· ≠ [])) := by
  have filled : ∀ p ∈ cleanEntries one profiles ++ cleanEntries two profiles, p ≠ [] := by
    intro p member
    rcases List.mem_append.1 member with left | right
    · exact filled_of_mem_clean left
    · exact filled_of_mem_clean right
  rw [cleanSearchPath, cleanEntries_append, Text.join_append_filled filled]
  rfl

theorem cleanSearchPath_cleanSearchPath (searchPath : Text) (ds es : List Path) :
    cleanSearchPath (cleanSearchPath searchPath ds) es = cleanSearchPath searchPath (ds ++ es) :=
  congrArg (Text.join ":") (cleanEntries_cleanSearchPath searchPath ds es)

theorem cleanSearchPath_twice (searchPath : Text) (profiles : List Path) :
    cleanSearchPath (cleanSearchPath searchPath profiles) profiles =
      cleanSearchPath searchPath profiles := by
  rw [cleanSearchPath_cleanSearchPath]
  exact cleanSearchPath_congr searchPath fun d => by simp

/-- Cleaning composes: a second cleaning takes away what its own profiles hold, and a search path of
two parts is cleaned part by part. What was clean and has been appended comes out as it went in. -/
theorem cleaning_composes (p q : Text) (ds es : List Path) :
    cleanSearchPath (cleanSearchPath p ds) es = cleanSearchPath p (ds ++ es) ∧
    cleanSearchPath (cleanSearchPath p ds) ds = cleanSearchPath p ds ∧
    (∀ others, (∀ d, d ∈ ds ↔ d ∈ others) → cleanSearchPath p ds = cleanSearchPath p others) ∧
    cleanSearchPath (p ++ Text.ofString ":" ++ q) ds =
      Text.join ":" ([cleanSearchPath p ds, cleanSearchPath q ds].filter (· ≠ [])) ∧
    ∀ handed, cleanSearchPath handed ds = handed →
      cleanSearchPath (p ++ Text.ofString ":" ++ handed) ds =
        Text.join ":" ([cleanSearchPath p ds, handed].filter (· ≠ [])) := by
  refine ⟨cleanSearchPath_cleanSearchPath p ds es, cleanSearchPath_twice p ds,
    fun others same => cleanSearchPath_congr p same, cleanSearchPath_append p q ds, ?_⟩
  intro handed clean
  rw [cleanSearchPath_append, clean]

/-- A parent's search path that a session has appended, cleaned in a session inside it, where the
profile is named twice. -/
theorem cleaning_composes_nested :
    let handed : Text := "/usr/bin:/bin"
    cleanSearchPath handed ["/nix/p"] = handed ∧
      cleanSearchPath (Text.ofString "/nix/p/bin::/opt//b/" ++ Text.ofString ":" ++ handed) ["/nix/p"] =
        Text.ofString "/opt/b:/usr/bin:/bin" ∧
      cleanSearchPath "/nix/p/bin::/opt//b/" ["/nix/p"] =
        cleanSearchPath "/nix/p/bin::/opt//b/" ["/nix/p", "/nix/p"] := by
  intro handed
  have clean : cleanSearchPath handed ["/nix/p"] = handed := by decide
  obtain ⟨-, -, repeated, -, appended⟩ :=
    cleaning_composes "/nix/p/bin::/opt//b/" handed ["/nix/p"] []
  refine ⟨clean, (appended handed clean).trans ?_, repeated _ fun d => by simp⟩
  decide

end Environ

end SandboxShell

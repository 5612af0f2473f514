import SandboxShell.Proofs.Environ.SearchPath
import Mathlib.Tactic.ByContra

/-!
Package profiles and the search path that is handed on. An entry lies in a profile by the names that
lead to both, and is taken out by the beginning of its text. The two agree where entry and profile
start from one root; but a root that is written with two slashes stays so, and what lies in a profile
under the other root is taken out only if some profile happens to begin its text.
-/

namespace SandboxShell

namespace Environ

variable {list searchPath : Text} {d x : Path}

theorem direct_of_mem_profiles (member : d ∈ profileDirectories list)
    (absolute : Path.isAbsolute d = true) : ∃ names, d.Direct (Path.root d) names := by
  obtain ⟨word, -, rfl⟩ := List.mem_map.1 member
  rw [Path.isAbsolute_normalize] at absolute
  rw [Path.root_normalize]
  exact ⟨_, Path.direct_normalize absolute⟩

theorem isProfilePath_of_liesIn (member : d ∈ profileDirectories list)
    (absolute : Path.isAbsolute d = true) {names : List Text}
    (direct : x.Direct (Path.root d) names) (lies : x.LiesIn d) :
    isProfilePath (profileDirectories list) x = true := by
  obtain ⟨names', outer⟩ := direct_of_mem_profiles member absolute
  exact isProfilePath_iff.2 ⟨d, member, direct.prefix_of_liesIn outer lies⟩

theorem root_ne_of_liesIn (kept : x ∈ cleanEntries searchPath (profileDirectories list))
    (member : d ∈ profileDirectories list) (absolute : Path.isAbsolute d = true)
    (lies : x.LiesIn d) : Path.root x ≠ Path.root d := by
  intro same
  obtain ⟨names, direct⟩ := direct_of_mem_clean kept
  obtain ⟨raw, -, -, outside, rfl⟩ := mem_cleanEntries.1 kept
  have inside := isProfilePath_of_liesIn member absolute (same ▸ direct) lies
  rw [outside] at inside
  cases inside

/-- No directory of a profile is handed on just when each entry that lies in one under the other root
begins with some profile. -/
theorem profiles_left_out_iff (searchPath list : Text) :
    (∀ x ∈ searchEntries (cleanSearchPath searchPath (profileDirectories list)),
      ∀ d ∈ profileDirectories list, Path.isAbsolute d = true → ¬x.LiesIn d) ↔
    ∀ raw ∈ Text.splitOn ':' searchPath, Path.isAbsolute raw = true →
      ∀ d ∈ profileDirectories list, Path.isAbsolute d = true →
        Path.LiesIn (Path.normalize raw) d → Path.root raw ≠ Path.root d →
          ∃ other ∈ profileDirectories list, other <+: Path.normalize raw := by
  rw [searchEntries_cleanSearchPath]
  constructor
  · intro outside raw piece rooted d member absolute lies _
    rw [← isProfilePath_iff]
    by_contra free
    have kept : Path.normalize raw ∈ cleanEntries searchPath (profileDirectories list) :=
      mem_cleanEntries.2 ⟨raw, piece, rooted, Bool.eq_false_iff.2 free, rfl⟩
    exact outside _ kept d member absolute lies
  · intro begun x kept d member absolute lies
    have different := root_ne_of_liesIn kept member absolute lies
    obtain ⟨raw, piece, rooted, outside, rfl⟩ := mem_cleanEntries.1 kept
    rw [Path.root_normalize] at different
    have inside := isProfilePath_iff.2 (begun raw piece rooted d member absolute lies different)
    rw [outside] at inside
    cases inside

/-- A directory of a profile, spelled with two slashes in front, is handed on. -/
theorem profile_handed_on :
    let e : Environ := Table.ofList [("PATH", "//nix/p/bin:/nix/p/bin:/bin"), ("NIX_PROFILES", "/nix/p")]
    e.handedPath = "//nix/p/bin:/bin" ∧
      ∃ x ∈ searchEntries (cleanSearchPath (e.value "PATH") (profileDirectories (e.value "NIX_PROFILES"))),
        ∃ d ∈ profileDirectories (e.value "NIX_PROFILES"),
          Path.isAbsolute d = true ∧ x.LiesIn d := by
  intro e
  have split : searchEntries (cleanSearchPath (e.value "PATH")
      (profileDirectories (e.value "NIX_PROFILES"))) = (["//nix/p/bin", "/bin"] : List Path) := by
    decide
  have profiles : profileDirectories (e.value "NIX_PROFILES") = (["/nix/p"] : List Path) := by
    decide
  rw [split, profiles]
  exact ⟨by decide, "//nix/p/bin", List.mem_cons_self, "/nix/p", List.mem_cons_self, by decide,
    by decide⟩

end Environ

end SandboxShell

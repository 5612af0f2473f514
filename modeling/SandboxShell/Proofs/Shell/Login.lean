import SandboxShell.Proofs.Shell.Naming
import SandboxShell.Proofs.Shell.Intended

/-!
Login shells, named with a dash in front. The dash does not count for what the shell is and where its
startup file lies, but it stays in the program: two shells whose names differ by the dash have the
same profile but for the program, and `env` is told to run two different files. Only where the
program is taken for an assignment does `env` run the same for both.
-/

namespace SandboxShell

namespace ShellKind

theorem named_dash {base : Text} (undashed : base.head? ≠ some (.char '-')) :
    named (.char '-' :: base) = named base := by
  have same : withoutLoginDash base = base :=
    (withoutLoginDash_eq_iff undashed).2 (.inl rfl)
  calc named (.char '-' :: base)
      = ofProgram (withoutLoginDash (.char '-' :: base)) := (ofProgram_withoutLoginDash _).symm
    _ = ofProgram (withoutLoginDash base) := congrArg ofProgram same.symm
    _ = named base := ofProgram_withoutLoginDash base

end ShellKind

namespace ShellProfile

open WordReader

theorem foldl_set_program (settings : List HookSetting) (p : ShellProfile) (program : Path) :
    settings.foldl set { p with program } = { settings.foldl set p with program } :=
  List.foldl_hom (fun q : ShellProfile => { q with program }) fun _ setting => by
    cases setting <;> rfl

theorem detect?_other {one two : Environ} (settings : List HookSetting)
    (first : one.value "SHELL" ≠ []) (second : two.value "SHELL" ≠ [])
    (kind : ShellKind.ofPath (one.value "SHELL") = ShellKind.ofPath (two.value "SHELL"))
    (home : one.value "HOME" = two.value "HOME") (named : one.value "ENV" = two.value "ENV") :
    ∃ p, detect? one settings = some p ∧
      detect? two settings = some { p with program := Path.normalize (two.value "SHELL") } := by
  obtain ⟨p, found⟩ := exists_detect? settings first
  refine ⟨p, found, ?_⟩
  unfold detect? at found ⊢
  rw [if_neg first] at found
  rw [if_neg second, ← Option.some.inj found, ← foldl_set_program, ← kind,
    startupPathOf_congr home named]

/-- What `env` runs, given these words: the first of them that assigns nothing. Options of its own
would stand before the first assignment. -/
def envRuns? (words : List Text) : Option Text := words.find? fun w => .char '=' ∉ w

def executed? (p : ShellProfile) (startup : Option Path) : Option Text :=
  envRuns? ((p.intended startup).drop 2)

/-- What `env` runs where the program is taken for an assignment: the switch of a bash, which then
stands first. -/
def runsInstead? (kind : ShellKind) : Option Path → Option Text
  | none | some [] => none
  | some _ => if kind = .bash then some "--rcfile" else none

theorem executed?_eq (p : ShellProfile) (startup : Option Path) :
    p.executed? startup =
      if .char '=' ∈ p.program then runsInstead? p.kind startup else some p.program := by
  rcases startup with _ | _ | ⟨s, rest⟩
  · by_cases assigning : .char '=' ∈ p.program <;>
      simp [executed?, envRuns?, intended, Text.ofString, runsInstead?, assigning]
  · by_cases assigning : .char '=' ∈ p.program <;>
      simp [executed?, envRuns?, intended, Text.ofString, runsInstead?, assigning]
  · cases kind : p.kind <;> by_cases assigning : .char '=' ∈ p.program <;>
      simp [executed?, envRuns?, intended, Text.ofString, runsInstead?, kind, assigning]

theorem executed?_eq_iff {p : ShellProfile} {program : Path}
    (alike : .char '=' ∈ program ↔ .char '=' ∈ p.program) (other : program ≠ p.program)
    (startup : Option Path) :
    executed? { p with program } startup = p.executed? startup ↔ .char '=' ∈ p.program := by
  rw [executed?_eq, executed?_eq]
  by_cases assigning : .char '=' ∈ p.program
  · rw [if_pos assigning, if_pos (alike.2 assigning)]
    exact iff_of_true rfl assigning
  · have plain : .char '=' ∉ program := fun member => assigning (alike.1 member)
    rw [if_neg assigning, if_neg plain]
    exact iff_of_false (fun same => other (Option.some.inj same)) assigning

theorem standsBare_dash {front base : Text} (stands : StandsBare (front ++ base)) :
    StandsBare (front ++ .char '-' :: base) := by
  refine ⟨List.append_ne_nil_of_right_ne_nil front (List.cons_ne_nil _ _), ?_, ?_⟩
  · intro s member
    rcases List.mem_append.1 member with before | here
    · exact stands.plain s (List.mem_append_left _ before)
    · rcases List.mem_cons.1 here with rfl | behind
      · decide
      · exact stands.plain s (List.mem_append_right _ behind)
  · intro s head
    cases front with
    | nil =>
      obtain rfl : .char '-' = s := Option.some.inj head
      decide
    | cons x front => exact stands.first s head

/-- A command is read as what it is meant to be with the dash in its program, if it is without. -/
theorem shellWords?_dash {p : ShellProfile} {front base : Text} {startup : Option Path}
    (program : p.program = front ++ base) (stands : StandsBare p.program)
    (quotable : ∀ path ∈ p.quotedPath startup, Quotable path) :
    ∀ q ∈ [p, { p with program := front ++ .char '-' :: base }],
      (q.command startup).shellWords? = some ((q.intended startup).map Text.asWord) := by
  intro q member
  have sound : ∀ w ∈ q.commandWords startup, w.Sound := by
    rw [sound_commandWords_iff]
    rcases List.mem_pair.1 member with rfl | rfl
    · exact ⟨stands, quotable⟩
    · exact ⟨standsBare_dash (program ▸ stands), quotable⟩
  rw [← contents_commandWords]
  exact CommandWord.shellWords?_join_iff.2 sound

theorem head?_dash (front base : Text) :
    (front ++ .char '-' :: base).head? = some (.char '-') ↔
      front = [] ∨ front.head? = some (.char '-') := by
  cases front <;> simp

theorem isEntry_dash {base : Text} (entry : Path.IsEntry base) :
    Path.IsEntry (.char '-' :: base) where
  filled := List.cons_ne_nil _ _
  moving := fun same => absurd (List.cons.inj same).1 (by decide)
  unbroken := fun member => (List.mem_cons.1 member).elim (by decide) entry.unbroken
  named := fun same => absurd (List.cons.inj same).1 (by decide)

theorem detect?_dash (environ : Environ) (settings : List HookSetting) {d base : Text}
    (lead : Path.IsLead d) (entry : Path.IsEntry base) (undashed : base.head? ≠ some (.char '-')) :
    ∃ p, detect? (environ.put "SHELL" (d ++ base)) settings = some p ∧
      p.program = (Path.route d).resolve.lead ++ base ∧
      detect? (environ.put "SHELL" (d ++ .char '-' :: base)) settings =
        some { p with program := (Path.route d).resolve.lead ++ .char '-' :: base } := by
  have dashed : Path.IsEntry (.char '-' :: base) := isEntry_dash entry
  have shell (t : Text) : Environ.value (environ.put "SHELL" t) "SHELL" = t := by
    rw [Environ.value_put, if_pos rfl]
  have unchanged (t u : Text) {name : Text} (other : name ≠ Text.ofString "SHELL") :
      Environ.value (environ.put "SHELL" t) name = Environ.value (environ.put "SHELL" u) name := by
    rw [Environ.value_put, Environ.value_put, if_neg other, if_neg other]
  have program {name : Text} (named : Path.IsEntry name) :
      Path.normalize (d ++ name) = (Path.route d).resolve.lead ++ name := by
    simpa only [List.append_nil] using Path.normalize_entry lead named .none
  have kind {name : Text} (named : Path.IsEntry name) :
      ShellKind.ofPath (d ++ name) = ShellKind.named name := by
    simpa only [List.append_nil] using ShellKind.ofPath_entry lead named .none
  have somewhere {name : Text} (named : Path.IsEntry name) :
      Environ.value (environ.put "SHELL" (d ++ name)) "SHELL" ≠ [] := by
    rw [shell]
    exact List.append_ne_nil_of_right_ne_nil d named.filled
  have oneKind : ShellKind.ofPath (Environ.value (environ.put "SHELL" (d ++ base)) "SHELL") =
      ShellKind.ofPath (Environ.value (environ.put "SHELL" (d ++ .char '-' :: base)) "SHELL") := by
    rw [shell, shell, kind entry, kind dashed, ShellKind.named_dash undashed]
  obtain ⟨p, regular, login⟩ := detect?_other settings (somewhere entry) (somewhere dashed) oneKind
    (unchanged _ _ (by decide)) (unchanged _ _ (by decide))
  refine ⟨p, regular, ?_, ?_⟩
  · rw [(detect?_eq regular).2.1, shell, program entry]
  · rw [login, shell, program dashed]

/-- The dash of a login shell changes neither its kind nor where its startup file lies, but `env` is
told to run the name with the dash. It runs the same as without it just when both programs are taken
for assignments; else it runs the two programs, and the one with the dash begins with it just when
nothing stands before the name, or a dash. -/
theorem login_dash_kept (environ : Environ) (settings : List HookSetting) {d base : Text}
    (lead : Path.IsLead d) (entry : Path.IsEntry base) (undashed : base.head? ≠ some (.char '-')) :
    let front := (Path.route d).resolve.lead
    ∃ p login : ShellProfile,
      detect? (environ.put "SHELL" (d ++ base)) settings = some p ∧
      detect? (environ.put "SHELL" (d ++ .char '-' :: base)) settings = some login ∧
      p.program = front ++ base ∧
      login = { p with program := front ++ .char '-' :: base } ∧
      (login.program.head? = some (.char '-') ↔ front = [] ∨ front.head? = some (.char '-')) ∧
      ∀ startup,
        (login.executed? startup = p.executed? startup ↔ .char '=' ∈ p.program) ∧
        (.char '=' ∉ p.program → p.executed? startup = some p.program ∧
          login.executed? startup = some login.program) ∧
        (StandsBare p.program → (∀ path ∈ p.quotedPath startup, Quotable path) →
          ∀ q ∈ [p, login],
            (q.command startup).shellWords? = some ((q.intended startup).map Text.asWord)) := by
  intro front
  obtain ⟨p, regular, program, login⟩ := detect?_dash environ settings lead entry undashed
  have alike : .char '=' ∈ front ++ .char '-' :: base ↔ .char '=' ∈ p.program := by
    simp [program, front]
  have other : front ++ .char '-' :: base ≠ p.program := by
    rw [program]
    exact fun same => undashed (congrArg List.head? (List.append_cancel_left same)).symm
  refine ⟨p, _, regular, login, program, rfl, head?_dash front base, fun startup => ⟨?_, ?_, ?_⟩⟩
  · exact executed?_eq_iff alike other startup
  · intro plain
    have dashed : .char '=' ∉ front ++ .char '-' :: base := fun member => plain (alike.1 member)
    exact ⟨(executed?_eq _ _).trans (if_neg plain), (executed?_eq _ _).trans (if_neg dashed)⟩
  · exact shellWords?_dash program

/-- Below a directory that is left again, the two programs lie in the same place. -/
theorem login_dash_kept_zsh :
    let d : Text := "/usr/lib/../bin/"
    let base : Text := "zsh"
    let environ : Environ := Table.ofList [("HOME", "/h"), ("SHELL", "")]
    Path.IsLead d ∧ Path.IsEntry base ∧ base.head? ≠ some (.char '-') ∧
      ∃ p login : ShellProfile,
        detect? (environ.put "SHELL" (d ++ base)) [] = some p ∧
        detect? (environ.put "SHELL" (d ++ .char '-' :: base)) [] = some login ∧
        p.kind = login.kind ∧ p.startupPath = login.startupPath ∧
        ∀ startup, p.executed? startup = some "/usr/bin/zsh" ∧
          login.executed? startup = some "/usr/bin/-zsh" := by
  intro d base environ
  have lead : Path.IsLead d := .inr ⟨"/usr/lib/../bin", rfl⟩
  have entry : Path.IsEntry base := ⟨⟨by decide, by decide, by decide⟩, by decide⟩
  have undashed : base.head? ≠ some (.char '-') := by decide
  obtain ⟨p, login, regular, dashed, program, rfl, -, runs⟩ :=
    login_dash_kept environ [] lead entry undashed
  have front : (Path.route d).resolve.lead = "/usr/bin/" := by decide
  have plain : .char '=' ∉ p.program := by
    rw [program, front]
    decide
  refine ⟨lead, entry, undashed, p, _, regular, dashed, rfl, rfl, fun startup => ?_⟩
  obtain ⟨without, withDash⟩ := (runs startup).2.1 plain
  rw [without, withDash, program, front]
  exact ⟨rfl, rfl⟩

/-- A login shell in the search path is looked for under its name with the dash. -/
theorem login_dash_executed :
    let environ (shell : Text) : Environ := Table.ofList [("SHELL", shell), ("HOME", "/h")]
    let startup : Option Path := some "/tmp/boxsh0001/.bashrc"
    ∃ p login : ShellProfile,
      detect? (environ "bash") [] = some p ∧ detect? (environ "-bash") [] = some login ∧
      (p.command startup).shellWords? =
        some ((["exec", "env", "SHELL=bash", "bash", "--rcfile", "/tmp/boxsh0001/.bashrc"] :
          List Text).map Text.asWord) ∧
      (login.command startup).shellWords? =
        some ((["exec", "env", "SHELL=-bash", "-bash", "--rcfile", "/tmp/boxsh0001/.bashrc"] :
          List Text).map Text.asWord) ∧
      p.executed? startup = some "bash" ∧ login.executed? startup = some "-bash" ∧
      login.executed? startup ≠ p.executed? startup := by
  intro environ startup
  let p : ShellProfile := { kind := .bash, program := "bash", startupPath := "/h/.bashrc" }
  exact ⟨p, { p with program := "-bash" }, by decide, by decide, by decide, by decide, by decide,
    by decide, by decide⟩

end ShellProfile

end SandboxShell

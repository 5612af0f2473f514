import SandboxShell.Proofs.CommandLine.Compared

/-!
Which variables a session depends on. It reads seven of them, and of the others it sees only which
names on the keep list there are, and in which order. Whatever the rest of the environment holds is
handed on to the tool as it is, and shows nowhere else.
-/

namespace SandboxShell

namespace Environ

def consumedNames : List Text :=
  ["SHELL", "HOME", "ENV", "PATH", "NIX_PROFILES", "BOXSH_CONFIG", "BOXSH_SANDBOX_TOOL"]

/-- Two environments with the same values of the variables that are read, and with the same names on
the keep list, in the same order. -/
structure Similar (one two : Environ) : Prop where
  consumed : ∀ name ∈ consumedNames, one.find? name = two.find? name
  kept : one.names.filter isKept = two.names.filter isKept

variable {one two : Environ}

theorem Similar.value_eq (similar : Similar one two) {name : Text} (read : name ∈ consumedNames) :
    one.value name = two.value name :=
  value_eq_of_find? (similar.consumed name read)

theorem Similar.profiles_eq (similar : Similar one two) : one.profiles = two.profiles := by
  unfold profiles
  rw [similar.value_eq (by decide)]

theorem Similar.handedPath_eq (similar : Similar one two) : one.handedPath = two.handedPath := by
  unfold handedPath
  rw [similar.value_eq (by decide), similar.profiles_eq]

theorem Similar.sessionPairs_eq (similar : Similar one two) :
    one.sessionPairs = two.sessionPairs := by
  unfold sessionPairs
  rw [similar.handedPath_eq, similar.profiles_eq]

theorem names_sessionEntries {e : Environ} (named : e.WellNamed) :
    e.sessionEntries.map entryName = e.names ++ sessionNames := by
  rw [sessionEntries_eq, List.map_map]
  have whole : e.names ++ sessionNames = (e.entries ++ e.sessionPairs).map Prod.fst := by
    rw [List.map_append]
    rfl
  rw [whole]
  exact List.map_congr_left fun pair member =>
    entryName_entry _ (unmarked_of_mem_pairs named member)

theorem Similar.keepArguments_eq (similar : Similar one two) (named : one.WellNamed)
    (named' : two.WellNamed) :
    keepArguments one.sessionEntries = keepArguments two.sessionEntries := by
  unfold keepArguments
  rw [names_sessionEntries named, names_sessionEntries named', List.filter_append,
    List.filter_append, similar.kept]

theorem Similar.find?_handed (similar : Similar one two) (named : one.WellNamed)
    (named' : two.WellNamed) :
    ∀ name ∈ sessionNames, one.handed.find? name = two.handed.find? name := by
  intro name session
  obtain ⟨pair, put, rfl⟩ : ∃ pair ∈ one.sessionPairs, pair.1 = name := List.mem_map.1 session
  rw [Environ.find?_handed named pair put]
  rw [similar.sessionPairs_eq] at put
  exact (Environ.find?_handed named' pair put).symm

end Environ

open Environ

variable {h : Host} {other : Environ}

theorem Accounts.home?_congr (accounts : Accounts)
    (home : other.find? "HOME" = h.environ.find? "HOME") :
    accounts.home? other = accounts.home? h.environ := by
  funext name
  unfold home?
  rw [home]

theorem Route.expandHome?_congr (accounts : Accounts)
    (home : other.find? "HOME" = h.environ.find? "HOME") :
    expandHome? accounts other = expandHome? accounts h.environ := by
  funext r
  unfold expandHome?
  rw [accounts.home?_congr home]

namespace Config

theorem homeFile_congr (home : other.find? "HOME" = h.environ.find? "HOME") :
    homeFile { h with environ := other } = homeFile h := by
  unfold homeFile
  dsimp only
  rw [Route.expandHome?_congr h.accounts home]

theorem load_congr (similar : Similar other h.environ) :
    load { h with environ := other } none = load h none := by
  have home := similar.consumed "HOME" (by decide)
  have place : location { h with environ := other } = location h := by
    unfold location
    dsimp only
    rw [homeFile_congr home, similar.value_eq (by decide), Route.expandHome?_congr h.accounts home]
  unfold load
  rw [homeFile_congr home, place]
  cases homeFile h with
  | error fault => rfl
  | ok route =>
    cases location h with
    | error fault => rfl
    | ok place => exact loadFrom_congr (similar.value_eq (by decide)) place.text

end Config

def Event.withoutEnviron : Event → Option Event
  | .started invocation => some (.started { invocation with environ := Table.empty })
  | e => some e

theorem ShellProfile.detect?_congr (similar : Similar other h.environ) :
    detect? other = detect? h.environ := by
  funext settings
  unfold detect?
  rw [similar.value_eq (by decide), startupPathOf_congr (similar.value_eq (by decide))
    (similar.value_eq (by decide))]

namespace Session

theorem start_withoutEnviron (config : Config) (arguments : List Text) (first second : Environ) :
    (start { h with environ := other } config ⟨arguments, first⟩).seen Event.withoutEnviron =
      (start h config ⟨arguments, second⟩).seen Event.withoutEnviron := by
  unfold start
  dsimp only
  cases arguments.findSome? h.nameFault? <;> rfl

theorem run_withoutEnviron (similar : Similar other h.environ) (named : other.WellNamed)
    (named' : h.environ.WellNamed) (packages : Text) (profile : Option ShellProfile)
    (config : Config) :
    (run { h with environ := other } packages profile config other).seen Event.withoutEnviron =
      (run h packages profile config h.environ).seen Event.withoutEnviron := by
  have arguments : argv packages other.sessionEntries = argv packages h.environ.sessionEntries := by
    funext command config
    unfold argv
    rw [similar.keepArguments_eq named named']
  have planned : plan { h with environ := other } packages other.sessionEntries profile config =
      plan h packages h.environ.sessionEntries profile config := by
    unfold plan
    rw [arguments]
    rfl
  unfold run
  dsimp only
  rw [similar.handedPath_eq, planned]
  apply Traced.seen_bind_congr rfl
  apply Traced.seen_bind_congr rfl
  cases (plan h packages h.environ.sessionEntries profile config).value with
  | error fault => rfl
  | ok arguments => exact start_withoutEnviron config arguments _ _

end Session

namespace CommandLine

theorem run_withoutEnviron (similar : Similar other h.environ) (named : other.WellNamed)
    (named' : h.environ.WellNamed) (arguments : List Text) :
    (run { h with environ := other } arguments).seen Event.withoutEnviron =
      (run h arguments).seen Event.withoutEnviron := by
  have detected : profileFor { h with environ := other } = profileFor h := by
    funext asked config
    unfold profileFor Session.detect
    dsimp only
    rw [ShellProfile.detect?_congr similar]
  exact run_seen_congr arguments (Config.homeFile_congr (similar.consumed "HOME" (by decide)))
    (congrArg _ (Config.load_congr similar)) detected fun asked config =>
      Session.run_withoutEnviron similar named named' asked.packages _ config

/-- Nothing but the seven variables that are read and the kept names can show in a run, except in
the environment that the tool gets; and there each variable keeps its own value, but for the three
that are put in, which are the same. -/
theorem run_consumed (h : Host) (other : Environ) (arguments : List Text)
    (named : h.environ.WellNamed) (named' : other.WellNamed) (similar : Similar other h.environ) :
    let one := run h arguments
    let two := run { h with environ := other } arguments
    two.outcome = one.outcome ∧ two.output = one.output ∧ two.errors = one.errors ∧
      two.files = one.files ∧
      two.invocations.map Invocation.argv = one.invocations.map Invocation.argv ∧
      ∀ first ∈ one.invocations, ∀ second ∈ two.invocations,
        (∀ name ∈ sessionNames, second.environ.find? name = first.environ.find? name) ∧
        ∀ name, name ∉ sessionNames → first.environ.find? name = h.environ.find? name ∧
          second.environ.find? name = other.find? name := by
  intro one two
  have same : two.seen Event.withoutEnviron = one.seen Event.withoutEnviron :=
    run_withoutEnviron similar named' named arguments
  obtain ⟨-, debug, outcome⟩ := Report.seen_eq_iff.1 same
  have environ {g : Host} {r : Invocation} (started : r ∈ (run g arguments).invocations) :
      r.environ = g.environ.handed := by
    rcases run_invocations g arguments with none | ⟨argv, single⟩
    · rw [none] at started
      cases started
    · rw [single] at started
      rw [List.mem_singleton.1 started]
  refine ⟨outcome, ?_, ?_, ?_, ?_, ?_⟩
  · exact Report.flatMap_congr same fun e => by cases e <;> rfl
  · unfold Report.errors
    rw [debug]
    exact Report.flatMap_congr same fun e => by cases e <;> rfl
  · exact Report.filterMap_congr same fun e => by cases e <;> rfl
  · unfold Report.invocations
    rw [List.map_filterMap, List.map_filterMap]
    exact Report.filterMap_congr same fun e => by cases e <;> rfl
  · intro first started second started'
    rw [environ started, environ started']
    exact ⟨similar.find?_handed named' named, fun name apart =>
      ⟨find?_handed_of_not_mem named apart, find?_handed_of_not_mem named' apart⟩⟩

/-- A secret comes in, the terminal changes, and the variables stand in another order. -/
theorem run_consumed_secret :
    let login : Environ :=
      Table.ofList [("TERM", "xterm"), ("HOME", "/h"), ("SHELL", "/bin/bash"), ("LANG", "C")]
    let other : Environ := Table.ofList [("TOKEN", "s3=cr3t"), ("SHELL", "/bin/bash"),
      ("TERM", "dumb"), ("HOME", "/h"), ("NOTE", "x"), ("LANG", "C.UTF-8")]
    let h : Host :=
      { environ := login, nesting := 991, tool := .exited 3 }
    let arguments : List Text :=
      ["nix-shell", "--command",
        "exec env \"SHELL=/bin/bash\" /bin/bash --rcfile \"/tmp/boxsh0001/.bashrc\"", "--pure",
        "--keep", "TERM", "--keep", "HOME", "--keep", "LANG", "--keep", "PARENT_PATH",
        "--keep", "__ETC_PROFILE_NIX_SOURCED", "shell.nix"]
    login.WellNamed ∧ other.WellNamed ∧ Similar other login ∧
      (run { h with environ := other } ["--debug"]).errors = (run h ["--debug"]).errors ∧
      (run { h with environ := other } ["--debug"]).files = (run h ["--debug"]).files ∧
      (run h ["--debug"]).invocations.map Invocation.argv = [arguments] ∧
      ∀ second ∈ (run { h with environ := other } ["--debug"]).invocations,
        second.argv = arguments ∧ second.environ.find? "TOKEN" = some "s3=cr3t" := by
  intro login other h arguments
  have named : login.WellNamed := by
    unfold WellNamed
    decide
  have named' : other.WellNamed := by
    unfold WellNamed
    decide
  have similar : Similar other login := ⟨by decide, by decide⟩
  obtain ⟨-, -, errors, files, argv, environs⟩ :=
    run_consumed h other ["--debug"] named named' similar
  have started : (run h ["--debug"]).invocations.map Invocation.argv = [arguments] := by
    decide +kernel
  refine ⟨named, named', similar, errors, files, started, fun second begun => ?_⟩
  rw [started] at argv
  have same := List.mem_map_of_mem (f := Invocation.argv) begun
  rw [argv] at same
  obtain ⟨first, listed, -⟩ := List.mem_map.1 (started ▸ List.mem_singleton_self arguments)
  exact ⟨List.mem_singleton.1 same, ((environs first listed second begun).2 _ (by decide)).2⟩

end CommandLine

end SandboxShell

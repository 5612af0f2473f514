import SandboxShell.Proofs.Session.Launching
import SandboxShell.Proofs.Shell.Detection
import SandboxShell.Proofs.Startup.Carried

/-!
No shell is pointed at a startup file that was not completely written. The command of a session
points at a path just when the writing of the startup file came to its end and answered that path;
the file then holds all of its text at the time the tool starts. In every other session the command
points nowhere, and the only file that can be left is an empty one, or one with the beginning of the
text if the writing broke off. A zsh finds the file because the session keeps the name that the shell
looks for.
-/

namespace SandboxShell

namespace Host

theorem afterAll_append (h : Host) (first second : List Event) :
    h.afterAll (first ++ second) = (h.afterAll first).afterAll second := List.foldl_append

theorem files_afterAll {events : List Event} (h : Host)
    (unwritten : events.filterMap Event.file? = []) : (h.afterAll events).files = h.files := by
  rw [files_afterAll_eq, unwritten]
  rfl

theorem find?_afterAll (h : Host) (path : Path) (content : Bytes) (first : List Event)
    {last : List Event} (unwritten : last.filterMap Event.file? = []) :
    (h.afterAll (first ++ .wrote path content :: last)).files.find? path =
      some (.bytes content) := by
  have files : (h.afterAll (first ++ .wrote path content :: last)).files =
      (h.afterAll first).files.put path (.bytes content) := by
    rw [afterAll_append]
    exact files_afterAll _ unwritten
  rw [files, Table.find?_put, if_pos rfl]

end Host

namespace Session

/-- The writing of the session's startup file came to its end among these events, and answered this
path. -/
def Wrote (h : Host) (profile : Option ShellProfile) (mark : Text) (events : List Event)
    (path : Path) : Prop :=
  ∃ p, profile = some p ∧ (p.writeStartup h mark).value = .ok path ∧
    (p.writeStartup h mark).events <:+: events

def PointsAt (profile : Option ShellProfile) (arguments : List Text) (path : Path) : Prop :=
  ∃ p, profile = some p ∧ p.kind ≠ .unknown ∧
    ∃ tool rest, arguments = tool :: Text.ofString "--command" :: p.pointingCommand path :: rest

variable {h : Host} {profile : Option ShellProfile} {mark : Text}

theorem not_wrote_of_quiet {notes : List Event} (quiet : Event.AllQuiet notes) (path : Path) :
    ¬ Wrote h profile mark notes path := by
  rintro ⟨p, -, answer, first, last, split⟩
  obtain ⟨-, -, hook, content, -, -, events⟩ := p.writeStartup_ok answer
  have member : Event.wrote path content ∈ notes := by
    rw [← split, events]
    simp
  cases (quiet _ member).1

theorem not_pointsAt_fallback (packages : Text) (entries : List Text) (config : Config)
    (path : Path) : ¬ PointsAt profile (argv packages entries none config) path := by
  rintro ⟨p, -, -, tool, rest, same⟩
  have second : Text.ofString "--pure" = Text.ofString "--command" :=
    (List.cons.inj (List.cons.inj same).2).1
  exact absurd second (by decide)

theorem not_pointsAt_plain {p : ShellProfile} (present : profile = some p) (packages : Text)
    (entries : List Text) (config : Config) (path : Path) :
    ¬ PointsAt profile (argv packages entries (some p.plainCommand) config) path := by
  rintro ⟨q, same, known, tool, rest, points⟩
  obtain rfl := Option.some.inj (present.symm.trans same)
  have third : p.plainCommand = p.pointingCommand path :=
    (List.cons.inj (List.cons.inj (List.cons.inj points).2).2).1
  exact p.plainCommand_ne path known third

theorem Launching.of_wrote {before : List Event} {command : Option Text} {path : Path}
    (way : Launching h profile mark before command) (wrote : Wrote h profile mark before path) :
    ∃ p hook content, profile = some p ∧ p.program ≠ [] ∧ NeedsStartup p ∧
      command = some (p.pointingCommand path) ∧ path = p.sessionPath h ∧
      h.writing path = .kept ∧ p.Ready h hook ∧
      Utf8.encode (p.sessionText h hook mark) = .ok content ∧
      before.filterMap Event.file? = [(path, content)] ∧
      (h.afterAll before).files.find? path = some (.bytes content) := by
  cases way with
  | fallback _ quiet | plain _ _ _ quiet => exact absurd wrote (not_wrote_of_quiet quiet path)
  | unwritten p found _ fault refused =>
    obtain ⟨q, present, answer, -⟩ := wrote
    obtain rfl := Option.some.inj ((Option.filter_eq_some_iff.1 found).1.symm.trans present)
    cases refused.symm.trans answer
  | @pointed p found needed other answered first last quiet silent =>
    obtain ⟨present, named⟩ := Option.filter_eq_some_iff.1 found
    obtain ⟨q, same, answer, -⟩ := wrote
    obtain rfl := Option.some.inj (present.symm.trans same)
    obtain rfl := Except.ok.inj (answer.symm.trans answered)
    obtain ⟨place, kept, hook, content, ready, encoded, events⟩ := p.writeStartup_ok answer
    have prepared := p.preparation_quiet h
    refine ⟨p, hook, content, present, of_decide_eq_true named, needed, rfl, place, kept, ready,
      encoded, ?_, ?_⟩
    · rw [events, List.filterMap_append, List.filterMap_append, List.filterMap_append, quiet.files,
        prepared.files, silent.files]
      rfl
    · have split := h.find?_afterAll path content (first ++ p.preparation h)
        ((Event.AllQuiet.noted .hooks ("wrote boxsh shellrc to: " ++ path)).append silent).files
      rw [events]
      simpa using split

theorem Launching.of_not_wrote {before : List Event} {command : Option Text}
    (way : Launching h profile mark before command)
    (unwritten : ∀ path, ¬ Wrote h profile mark before path) :
    command = (profile.filter (·.program ≠ [])).map ShellProfile.plainCommand ∧
      (before.filterMap Event.file? = [] ∨
        ∃ p, profile = some p ∧ p.Leaves h mark (before.filterMap Event.file?)) := by
  cases way with
  | fallback missing quiet =>
    rw [missing]
    exact ⟨rfl, .inl quiet.files⟩
  | plain p found _ quiet =>
    rw [found]
    exact ⟨rfl, .inl quiet.files⟩
  | unwritten p found _ fault answer quiet silent =>
    rw [found]
    refine ⟨rfl, ?_⟩
    rw [List.filterMap_append, List.filterMap_append, quiet.files, silent.files, List.nil_append,
      List.append_nil]
    exact .inr ⟨p, (Option.filter_eq_some_iff.1 found).1, p.writeStartup_error answer⟩
  | pointed p found _ path answer =>
    exact absurd ⟨p, (Option.filter_eq_some_iff.1 found).1, answer, _, _, rfl⟩ (unwritten path)

theorem Launching.wrote {before : List Event} {command : Option Text} {p : ShellProfile}
    {hook : Text} {content : Bytes} (way : Launching h profile mark before command)
    (present : profile = some p) (named : p.program ≠ []) (needed : NeedsStartup p)
    (ready : p.Ready h hook) (kept : h.writing (p.sessionPath h) = .kept)
    (encoded : Utf8.encode (p.sessionText h hook mark) = .ok content) :
    Wrote h profile mark before (p.sessionPath h) := by
  have answer := congrArg Traced.value (p.writeStartup_done ready kept encoded)
  have known : profile.filter (·.program ≠ []) = some p :=
    Option.filter_eq_some_iff.2 ⟨present, decide_eq_true named⟩
  cases way with
  | fallback missing => cases missing.symm.trans known
  | plain q found unneeded =>
    obtain rfl := Option.some.inj (known.symm.trans found)
    exact absurd needed unneeded
  | unwritten q found _ fault refused =>
    obtain rfl := Option.some.inj (known.symm.trans found)
    cases answer.symm.trans refused
  | pointed q found =>
    obtain rfl := Option.some.inj (known.symm.trans found)
    exact ⟨p, present, answer, _, _, rfl⟩

/-- What holds of a session that does `before`, and then starts the tool with `arguments`. -/
structure PointsRight (h : Host) (packages : Text) (profile : Option ShellProfile) (config : Config)
    (environ : Environ) (before : List Event) (arguments : List Text) : Prop where
  /-- The shell is pointed at a startup file just when one has been written. -/
  points_iff : (∃ path, PointsAt profile arguments path) ↔
    ∃ path, Wrote h profile config.promptMark before path
  /-- A startup file is written just when nothing stands in the way. -/
  wrote_iff : (∃ path, Wrote h profile config.promptMark before path) ↔
    ∃ p hook content, profile = some p ∧ p.program ≠ [] ∧ NeedsStartup p ∧ p.Ready h hook ∧
      h.writing (p.sessionPath h) = .kept ∧
      Utf8.encode (p.sessionText h hook config.promptMark) = .ok content
  /-- The path is that of the file, and the file holds the whole text when the tool starts. -/
  pointed : ∀ path, Wrote h profile config.promptMark before path →
    ∃ p hook content, profile = some p ∧ p.planHook = some hook ∧
      arguments = argv packages environ.sessionEntries (some (p.pointingCommand path)) config ∧
      Utf8.encode (p.sessionText h hook config.promptMark) = .ok content ∧
      before.filterMap Event.file? = [(path, content)] ∧
      (h.afterAll before).files.find? path = some (.bytes content)
  /-- Otherwise the command is plain, or there is none, and at most the file of an attempt that failed
  is left: it is empty if its text has no written form, and else holds the beginning that got there. -/
  unpointed : (∀ path, ¬ Wrote h profile config.promptMark before path) →
    arguments = argv packages environ.sessionEntries
      ((profile.filter (·.program ≠ [])).map ShellProfile.plainCommand) config ∧
    (before.filterMap Event.file? = [] ∨
      ∃ p, profile = some p ∧ p.Leaves h config.promptMark (before.filterMap Event.file?))
  /-- A detected zsh finds the file in the directory that it is told. -/
  found : ∀ login settings p path, ShellProfile.detect? login settings = some p →
    profile = some p → p.kind = .zsh → login.value "HOME" ≠ [] →
    Wrote h profile config.promptMark before path → Path.dirName path ++ "/.zshrc" = path

theorem Launching.pointsRight {config : Config} {before : List Event} {command : Option Text}
    (way : Launching h profile config.promptMark before command) (packages : Text)
    (environ : Environ) :
    PointsRight h packages profile config environ before
      (argv packages environ.sessionEntries command config) := by
  have points {path : Path} (wrote : Wrote h profile config.promptMark before path) :
      PointsAt profile (argv packages environ.sessionEntries command config) path := by
    obtain ⟨p, hook, content, present, -, needed, rfl, -⟩ := way.of_wrote wrote
    exact ⟨p, present, needed.2, _, _, rfl⟩
  refine
    { points_iff := ⟨?_, fun ⟨path, wrote⟩ => ⟨path, points wrote⟩⟩
      wrote_iff := ⟨?_, ?_⟩
      pointed := ?_
      unpointed := ?_
      found := ?_ }
  · rintro ⟨path, pointing⟩
    -- without a written file the command is plain or missing, and neither points anywhere
    refine Classical.byContradiction fun none => ?_
    obtain ⟨rfl, -⟩ := way.of_not_wrote (not_exists.1 none)
    cases found : profile.filter (·.program ≠ []) with
    | none =>
      rw [found] at pointing
      exact not_pointsAt_fallback packages _ config path pointing
    | some p =>
      rw [found] at pointing
      exact not_pointsAt_plain (Option.filter_eq_some_iff.1 found).1 packages _ config path pointing
  · rintro ⟨path, wrote⟩
    obtain ⟨p, hook, content, present, named, needed, -, rfl, kept, ready, encoded, -⟩ :=
      way.of_wrote wrote
    exact ⟨p, hook, content, present, named, needed, ready, kept, encoded⟩
  · rintro ⟨p, hook, content, present, named, needed, ready, kept, encoded⟩
    exact ⟨_, way.wrote present named needed ready kept encoded⟩
  · intro path wrote
    obtain ⟨p, hook, content, present, -, -, rfl, -, -, ready, encoded, files, holds⟩ :=
      way.of_wrote wrote
    exact ⟨p, hook, content, present, ready.given, rfl, encoded, files, holds⟩
  · intro unwritten
    obtain ⟨rfl, files⟩ := way.of_not_wrote unwritten
    exact ⟨rfl, files⟩
  · intro login settings p path detected same zsh housed wrote
    obtain ⟨q, -, -, present, -, -, -, rfl, -⟩ := way.of_wrote wrote
    obtain rfl := Option.some.inj (present.symm.trans same)
    rw [q.dirName_sessionPath, q.sessionPath_eq, ShellProfile.startupName_zsh detected zsh housed]
    rfl

/-- A session points a shell at no startup file but one that has been completely written. It comes to
the arguments of the tool unless the system has no form for the path of the user's own startup file,
and starts the tool with them unless it has none for one of them. -/
theorem run_pointsRight (h : Host) (packages : Text) (profile : Option ShellProfile)
    (config : Config) (environ : Environ) (hooked : ∀ p, profile = some p → p.planHook ≠ none) :
    let ran := run h packages profile config environ
    (∃ before invocation, before.filterMap Event.invocation? = [] ∧
      PointsRight h packages profile config environ before invocation.argv ∧
      ((∀ name ∈ invocation.argv, h.nameFault? name = none) ∧
          ran.events = before ++ [.started invocation] ∨
        ∃ name ∈ invocation.argv, ∃ fault, h.nameFault? name = some fault ∧
          ran.value = .error (.unnameable fault) ∧ ran.events = before)) ∨
    ∃ p fault, profile = some p ∧ NeedsStartup p ∧ h.nameFault? p.startupPath = some fault ∧
      ran.value = .error (.unprepared (.unnameable fault)) ∧ Event.AllQuiet ran.events := by
  intro ran
  have going := run_going h packages profile config environ hooked
  change Going h packages profile config environ ran at going
  generalize ran = r at going
  cases going with
  | unnamed p found needed fault nameless quiet =>
    exact .inr ⟨p, fault, (Option.filter_eq_some_iff.1 found).1, needed, nameless, rfl, quiet⟩
  | @launched before command way ending starting =>
    let invocation : Invocation := ⟨argv packages environ.sessionEntries command config,
      Environ.ofEntries environ.sessionEntries⟩
    refine .inl ⟨before, invocation, way.invocations, way.pointsRight packages environ, ?_⟩
    rcases start_cases h config invocation with
      ⟨named, started⟩ | ⟨name, member, fault, nameless, ended⟩
    · rw [starting, started]
      exact .inl ⟨named, rfl⟩
    · rw [starting, ended]
      exact .inr ⟨name, member, fault, nameless, rfl, List.append_nil before⟩

/-- The home directory of a zsh may be written with a slash at its end. -/
theorem run_pointsRight_zsh :
    let login : Environ := Table.ofList [("SHELL", "/bin/zsh"), ("HOME", "/h/")]
    let h : Host :=
      { environ := login, nesting := 991 }
    let profile := ShellProfile.detect? login [.plan (some "make"), .user []]
    (∀ p, profile = some p → p.planHook ≠ none) ∧
      ∃ before invocation content,
        (run h "shell.nix" profile {} login).events = before ++ [.started invocation] ∧
        invocation.argv = argv "shell.nix" login.sessionEntries
          (some "exec env \"SHELL=/bin/zsh\" \"ZDOTDIR=/tmp/boxsh0001\" /bin/zsh") {} ∧
        before.filterMap Event.file? = [(Text.ofString "/tmp/boxsh0001/.zshrc", content)] := by
  intro login h profile
  let p : ShellProfile :=
    { kind := .zsh, program := "/bin/zsh", startupPath := "/h/.zshrc", planHook := some "make" }
  have detected : profile = some p := by decide
  have hooked : ∀ q, profile = some q → q.planHook ≠ none := by
    intro q same
    obtain rfl := Option.some.inj (detected.symm.trans same)
    decide
  refine ⟨hooked, ?_⟩
  have named : h.nameFault? p.startupPath = none := by decide
  obtain ⟨before, invocation, -, right, ended⟩ | ⟨q, fault, present, -, nameless, -⟩ :=
    run_pointsRight h "shell.nix" profile {} login hooked
  · have plain (s : String) : Text.Plain s := Text.plain_ofString s
    have encoded := Utf8.encode_of_writable (p.writable_sessionText h
      (plain "/h/.zshrc") (plain "make") (plain "") (plain "(boxsh)"))
    obtain ⟨path, wrote⟩ := right.wrote_iff.2 ⟨p, _, _, detected, by decide, ⟨by decide, by decide⟩,
      ⟨by decide, rfl, named, rfl⟩, by decide, encoded⟩
    obtain ⟨q, hook, content, present, -, arguments, -, files, -⟩ := right.pointed path wrote
    obtain rfl := Option.some.inj (detected.symm.trans present)
    obtain ⟨q, same, answer, -⟩ := wrote
    obtain rfl := Option.some.inj (detected.symm.trans same)
    have place : path = "/tmp/boxsh0001/.zshrc" := (p.writeStartup_ok answer).1.trans (by decide)
    subst place
    have command : p.pointingCommand "/tmp/boxsh0001/.zshrc" =
        "exec env \"SHELL=/bin/zsh\" \"ZDOTDIR=/tmp/boxsh0001\" /bin/zsh" := by rfl
    rw [command] at arguments
    rcases ended with ⟨-, events⟩ | ⟨name, member, fault, nameless, -⟩
    · exact ⟨before, invocation, content, events, arguments, files⟩
    · have sound : ∀ name ∈ argv "shell.nix" login.sessionEntries
          (some "exec env \"SHELL=/bin/zsh\" \"ZDOTDIR=/tmp/boxsh0001\" /bin/zsh") {},
          Text.nameFault? name = none := by decide +kernel
      cases (sound name (arguments ▸ member)).symm.trans nameless
  · obtain rfl := Option.some.inj (detected.symm.trans present)
    cases named.symm.trans nameless

end Session

end SandboxShell

import SandboxShell.Session.Launch
import SandboxShell.Proofs.Shell.Pointing
import SandboxShell.Proofs.Startup.Writing

/-!
How a session starts the tool. A session whose hook has a text starts it once, as its last event, if
the system has forms for all names that are needed. There are four ways to come to the command, and
each settles the events before; of these only the ones of a startup file's writing touch a file.
-/

namespace SandboxShell

namespace ShellProfile

theorem isName_startupName (path : Path) : Path.IsName (startupName path) := by
  unfold startupName
  dsimp only
  split
  · unfold Path.IsName
    decide
  · exact Path.isName_baseName path

theorem sessionPath_eq (h : Host) (p : ShellProfile) :
    p.sessionPath h = h.nextDirectory ++ .char '/' :: startupName p.startupPath :=
  (h.fresh h.directories).under_path (isName_startupName p.startupPath)

theorem sessionPath_ne_nil (h : Host) (p : ShellProfile) : p.sessionPath h ≠ [] := by
  rw [sessionPath_eq]
  exact List.append_ne_nil_of_right_ne_nil _ (List.cons_ne_nil _ _)

theorem dirName_sessionPath (h : Host) (p : ShellProfile) :
    Path.dirName (p.sessionPath h) = h.nextDirectory := by
  rw [sessionPath_eq]
  exact (h.fresh h.directories).dirName_slash (isName_startupName p.startupPath)

end ShellProfile

namespace Session

def NeedsStartup (p : ShellProfile) : Prop := p.startupPath ≠ [] ∧ p.kind ≠ .unknown

/-- How a session can come to the command that the tool is to run: the events before, and the
command. -/
inductive Launching (h : Host) (profile : Option ShellProfile) (mark : Text) :
    List Event → Option Text → Prop where
  | fallback (missing : profile.filter (·.program ≠ []) = none) {notes : List Event}
      (quiet : Event.AllQuiet notes) : Launching h profile mark notes none
  | plain (p : ShellProfile) (found : profile.filter (·.program ≠ []) = some p)
      (unneeded : ¬ NeedsStartup p) {notes : List Event} (quiet : Event.AllQuiet notes) :
      Launching h profile mark notes (some p.plainCommand)
  | unwritten (p : ShellProfile) (found : profile.filter (·.program ≠ []) = some p)
      (needed : NeedsStartup p) (fault : StartupFault)
      (answer : (p.writeStartup h mark).value = .error fault) {first last : List Event}
      (quiet : Event.AllQuiet first) (silent : Event.AllQuiet last) :
      Launching h profile mark (first ++ (p.writeStartup h mark).events ++ last)
        (some p.plainCommand)
  | pointed (p : ShellProfile) (found : profile.filter (·.program ≠ []) = some p)
      (needed : NeedsStartup p) (path : Path)
      (answer : (p.writeStartup h mark).value = .ok path) {first last : List Event}
      (quiet : Event.AllQuiet first) (silent : Event.AllQuiet last) :
      Launching h profile mark (first ++ (p.writeStartup h mark).events ++ last)
        (some (p.pointingCommand path))

theorem Launching.invocations {h : Host} {profile : Option ShellProfile} {mark : Text}
    {before : List Event} {command : Option Text} (way : Launching h profile mark before command) :
    before.filterMap Event.invocation? = [] := by
  cases way with
  | fallback _ quiet | plain _ _ _ quiet => exact quiet.invocations
  | unwritten p _ _ _ _ quiet silent | pointed p _ _ _ _ quiet silent =>
    have none := p.writeStartup_invocations h mark
    rw [Traced.invocations] at none
    rw [List.filterMap_append, List.filterMap_append, quiet.invocations, none, silent.invocations]
    rfl

theorem start_cases (h : Host) (config : Config) (invocation : Invocation) :
    ((∀ name ∈ invocation.argv, h.nameFault? name = none) ∧
      start h config invocation = ⟨[.started invocation], outcome h config⟩) ∨
    ∃ name ∈ invocation.argv, ∃ fault, h.nameFault? name = some fault ∧
      start h config invocation = ⟨[], .error (.unnameable fault)⟩ := by
  unfold start
  cases looked : invocation.argv.findSome? h.nameFault? with
  | none => exact .inl ⟨List.findSome?_eq_none_iff.1 looked, rfl⟩
  | some fault =>
    obtain ⟨name, member, nameless⟩ := List.exists_of_findSome?_eq_some looked
    exact .inr ⟨name, member, fault, nameless, rfl⟩

/-- How a session whose hook has a text can go: it comes to a command, and tries to start the tool
with it; or the system has no form for the path of the user's startup file. -/
inductive Going (h : Host) (packages : Text) (profile : Option ShellProfile) (config : Config)
    (environ : Environ) : Traced (Except Fault Unit) → Prop where
  | launched {before : List Event} {command : Option Text}
      (way : Launching h profile config.promptMark before command) (ending : Traced (Except Fault Unit))
      (starting : ending = start h config ⟨argv packages environ.sessionEntries command config,
        Environ.ofEntries environ.sessionEntries⟩) :
      Going h packages profile config environ ⟨before ++ ending.events, ending.value⟩
  | unnamed (p : ShellProfile) (found : profile.filter (·.program ≠ []) = some p)
      (needed : NeedsStartup p) (fault : NameFault)
      (nameless : h.nameFault? p.startupPath = some fault) {notes : List Event}
      (quiet : Event.AllQuiet notes) :
      Going h packages profile config environ ⟨notes, .error (.unprepared (.unnameable fault))⟩

theorem run_going (h : Host) (packages : Text) (profile : Option ShellProfile) (config : Config)
    (environ : Environ) (hooked : ∀ p, profile = some p → p.planHook ≠ none) :
    Going h packages profile config environ (run h packages profile config environ) := by
  unfold run plan
  cases found : profile.filter (·.program ≠ []) with
  | none =>
    exact .launched (.fallback found ((Event.AllQuiet.noted .environment _).append
      (Event.AllQuiet.noted .launcher _))) _ rfl
  | some p =>
    have entering := Event.AllQuiet.noted .environment ("PARENT_PATH=" ++ environ.handedPath)
    have executing (command : Text) := Event.AllQuiet.noted .launcher
      ("executing " ++ config.tool ++ " command: " ++
        Text.quotedList (argv packages environ.sessionEntries (some command) config))
    dsimp only
    unfold startup
    by_cases needed : NeedsStartup p
    · rw [if_neg (not_or.2 needed)]
      cases answer : (p.writeStartup h config.promptMark).value with
      | ok path =>
        have somewhere : path ≠ [] := by
          rw [(p.writeStartup_ok answer).1]
          exact p.sessionPath_ne_nil h
        have way : Going h packages profile config environ _ := .launched
          (.pointed p found needed path answer entering (executing (p.pointingCommand path))) _ rfl
        simpa [bind, pure, answer, p.command_some somewhere, Traced.note, Traced.emit] using way
      | error fault =>
        cases fatal : fault.isFatal with
        | true =>
          obtain ⟨reason, rfl, nameless, quiet⟩ := p.writeStartup_fatal needed.1
            (hooked p (Option.filter_eq_some_iff.1 found).1) answer fatal
          have way : Going h packages profile config environ _ :=
            .unnamed p found needed reason nameless (entering.append quiet)
          simpa [bind, pure, answer, fatal, Traced.note, Traced.emit] using way
        | false =>
          have failing := Event.AllQuiet.noted .launcher
            ("failed to write boxsh shellrc: " ++ fault.message)
          have way : Going h packages profile config environ _ := .launched
            (.unwritten p found needed fault answer entering
              (failing.append (executing p.plainCommand))) _ rfl
          simpa [bind, pure, answer, fatal, p.command_none, Traced.note, Traced.emit] using way
    · have unneeded : p.startupPath = [] ∨ p.kind = .unknown :=
        Decidable.byContradiction fun neither => needed (not_or.1 neither)
      rw [if_pos unneeded]
      have way : Going h packages profile config environ _ :=
        .launched (.plain p found needed (entering.append (executing p.plainCommand))) _ rfl
      simpa [bind, pure, p.command_none, Traced.note, Traced.emit] using way

def options (entries : List Text) (command : Option Text) : List Text :=
  (match command with
    | none => []
    | some c => [Text.ofString "--command", c]) ++ [Text.ofString "--pure"] ++
    Environ.keepArguments entries

theorem argv_eq (packages : Text) (entries : List Text) (command : Option Text) (config : Config) :
    argv packages entries command config =
      config.tool :: options entries command ++ [packages] := rfl

theorem pure_mem_options (entries : List Text) (command : Option Text) :
    Text.ofString "--pure" ∈ options entries command := by
  simp [options]

theorem command_not_kept (entries : List Text) :
    Text.ofString "--command" ∉ Environ.keepArguments entries := by
  intro member
  obtain ⟨name, kept, pair⟩ := List.mem_flatMap.1 member
  rcases List.mem_cons.1 pair with keep | last
  · exact absurd keep (by decide)
  · have listed := of_decide_eq_true (List.mem_filter.1 kept).2
    rw [← List.mem_singleton.1 last] at listed
    exact absurd listed (by decide)

theorem command_mem_options (entries : List Text) (command : Option Text) :
    Text.ofString "--command" ∈ options entries command ↔ command ≠ none := by
  have pure : Text.ofString "--command" ≠ Text.ofString "--pure" := by decide
  cases command with
  | none => simp [options, pure, command_not_kept]
  | some c => simp [options]

theorem Launching.command_ne_none {h : Host} {profile : Option ShellProfile} {mark : Text}
    {before : List Event} {command : Option Text} (way : Launching h profile mark before command) :
    command ≠ none ↔ profile.filter (·.program ≠ []) ≠ none := by
  cases way with
  | fallback missing => simp only [missing, ne_eq, not_true_eq_false]
  | plain p found | unwritten p found | pointed p found =>
    rw [found]
    exact iff_of_true (Option.some_ne_none _) (Option.some_ne_none _)

end Session

end SandboxShell

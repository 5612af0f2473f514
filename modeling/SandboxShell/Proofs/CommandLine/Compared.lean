import SandboxShell.Proofs.CommandLine.Served
import SandboxShell.Proofs.Environ.Handed
import SandboxShell.Proofs.Session.View

/-!
Two runs of the program compared. If the parts of two runs look the same through a view, so do the
runs. A run starts the tool at most once, in the environment that is handed on, and the only files
that it writes are those of its session.
-/

namespace SandboxShell

namespace Session

variable (h : Host) (packages : Text) (profile : Option ShellProfile) (config : Config)

theorem startup_files {p : ShellProfile} (needed : NeedsStartup p) :
    (startup h p config).files = (p.writeStartup h config.promptMark).files := by
  unfold startup
  rw [if_neg (not_or.2 needed), Traced.files_bind]
  cases (p.writeStartup h config.promptMark).value with
  | ok path => exact List.append_nil _
  | error fault =>
    dsimp only
    split <;> exact List.append_nil _

theorem startup_files_congr {files : Table FileContent} {p : ShellProfile}
    (same : files.find? p.startupPath = h.files.find? p.startupPath) :
    startup { h with files } p config = startup h p config := by
  have read : ShellProfile.readOwnStartup { h with files } p.startupPath =
      ShellProfile.readOwnStartup h p.startupPath := by
    unfold ShellProfile.readOwnStartup Host.read
    dsimp only
    rw [same]
  have written : p.writeStartup { h with files } config.promptMark =
      p.writeStartup h config.promptMark := by
    unfold ShellProfile.writeStartup
    rw [read]
    rfl
  unfold startup
  rw [written]

theorem startup_invocations (p : ShellProfile) : (startup h p config).invocations = [] := by
  unfold startup
  split
  · rfl
  · rw [Traced.invocations_bind, p.writeStartup_invocations, List.nil_append]
    split
    · rfl
    · split <;> rfl

theorem plan_invocations (entries : List Text) :
    (plan h packages entries profile config).invocations = [] := by
  unfold plan
  split
  · rfl
  · rw [Traced.invocations_bind, startup_invocations, List.nil_append]
    split <;> rfl

theorem plan_value (entries : List Text) {args : List Text}
    (planned : (plan h packages entries profile config).value = .ok args) :
    ∃ command, args = argv packages entries command config := by
  unfold plan at planned
  split at planned
  · exact ⟨none, (Except.ok.inj planned).symm⟩
  · rw [Traced.value_bind] at planned
    split at planned
    · cases planned
    · exact ⟨_, (Except.ok.inj planned).symm⟩

theorem run_invocations (environ : Environ) :
    (run h packages profile config environ).invocations = [] ∨
      ∃ command, (run h packages profile config environ).invocations =
        [⟨argv packages environ.sessionEntries command config, environ.handed⟩] := by
  unfold run
  rw [Traced.invocations_bind, Traced.invocations_note, Traced.invocations_bind, plan_invocations,
    List.nil_append, List.nil_append]
  split
  · exact .inl rfl
  · rename_i args planned
    obtain ⟨command, rfl⟩ := plan_value h packages profile config environ.sessionEntries planned
    rcases start_cases h config ⟨argv packages environ.sessionEntries command config,
      environ.handed⟩ with ⟨-, started⟩ | ⟨_, -, _, -, ended⟩
    · exact .inr ⟨command, congrArg Traced.invocations started⟩
    · exact .inl (congrArg Traced.invocations ended)

theorem start_files (invocation : Invocation) : (start h config invocation).files = [] := by
  rcases start_cases h config invocation with ⟨-, started⟩ | ⟨_, -, _, -, ended⟩
  · exact congrArg Traced.files started
  · exact congrArg Traced.files ended

theorem run_files {p : ShellProfile} (found : profile.filter (·.program ≠ []) = some p)
    (needed : NeedsStartup p) (environ : Environ) :
    (run h packages profile config environ).files =
      (p.writeStartup h config.promptMark).files := by
  have planned : (plan h packages environ.sessionEntries profile config).files =
      (p.writeStartup h config.promptMark).files := by
    unfold plan
    rw [found]
    dsimp only
    rw [Traced.files_bind, startup_files h config needed]
    split <;> exact List.append_nil _
  unfold run
  rw [Traced.files_bind, Traced.files_note, Traced.files_bind, planned, List.nil_append]
  split
  · exact List.append_nil _
  · rw [start_files, List.append_nil]

theorem run_seen_congr {g h : Host} {view : Event → Option Event} (packages : Text)
    (profile : Option ShellProfile) (config : Config) (environ : Environ) (tool : g.tool = h.tool)
    (names : g.nameFault? = h.nameFault?)
    (started : ∀ p, profile.filter (·.program ≠ []) = some p →
      (startup g p config).seen view = (startup h p config).seen view) :
    (run g packages profile config environ).seen view =
      (run h packages profile config environ).seen view := by
  have planned : (plan g packages environ.sessionEntries profile config).seen view =
      (plan h packages environ.sessionEntries profile config).seen view := by
    unfold plan
    cases found : profile.filter (·.program ≠ []) with
    | none => rfl
    | some p => exact Traced.seen_bind_congr (started p found) rfl
  have ended : start g config = start h config := by
    funext invocation
    unfold start outcome
    rw [tool, names]
  unfold run
  rw [ended]
  exact Traced.seen_bind_congr rfl (Traced.seen_bind_congr planned rfl)

end Session

namespace CommandLine

def Report.seen (view : Event → Option Event) (r : Report) : Report :=
  { r with events := r.events.filterMap view }

variable {h g : Host} {view : Event → Option Event}

theorem Report.seen_eq_iff {r s : Report} : r.seen view = s.seen view ↔
    r.events.filterMap view = s.events.filterMap view ∧ r.debug = s.debug ∧
      r.outcome = s.outcome := by
  unfold seen
  rw [mk.injEq]

theorem Report.filterMap_congr {α : Type} {r s : Report} (same : r.seen view = s.seen view)
    {f : Event → Option α} (kept : ∀ e, (view e).bind f = f e) :
    r.events.filterMap f = s.events.filterMap f := by
  rw [← Event.filterMap_view kept, (seen_eq_iff.1 same).1, Event.filterMap_view kept]

theorem Report.flatMap_congr {α : Type} {r s : Report} (same : r.seen view = s.seen view)
    {f : Event → List α} (kept : ∀ e, ((view e).map f).getD [] = f e) :
    r.events.flatMap f = s.events.flatMap f := by
  rw [← Event.flatMap_view kept, (seen_eq_iff.1 same).1, Event.flatMap_view kept]

theorem serve_seen_congr (asked : Request)
    (loaded : (Config.load g none).seen view = (Config.load h none).seen view)
    (detected : profileFor g = profileFor h)
    (sessions : ∀ config,
      (Session.run g asked.packages (profileFor h asked config).value config g.environ).seen view =
        (Session.run h asked.packages (profileFor h asked config).value config h.environ).seen view) :
    (serve g asked).seen view = (serve h asked).seen view := by
  apply Traced.seen_bind_congr loaded
  cases (Config.load h none).value with
  | error fault => rfl
  | ok config =>
    apply Traced.seen_bind_congr
    · rw [detected]
    · exact Traced.seen_bind_congr (sessions (configFor asked config)) rfl

/-- Runs look the same if the configuration, the shell and the session do. -/
theorem run_seen_congr (arguments : List Text)
    (housed : Config.homeFile g = Config.homeFile h)
    (loaded : (Config.load g none).seen view = (Config.load h none).seen view)
    (detected : profileFor g = profileFor h)
    (sessions : ∀ (asked : Request) (config : Config),
      (Session.run g asked.packages (profileFor h asked config).value config g.environ).seen view =
        (Session.run h asked.packages (profileFor h asked config).value config h.environ).seen view) :
    (run g arguments).seen view = (run h arguments).seen view := by
  unfold run
  rw [housed]
  split
  · rfl
  · split
    · rename_i asked _
      obtain ⟨events, value⟩ :=
        Traced.seen_eq_iff.1 (serve_seen_congr asked loaded detected (sessions asked))
      exact Report.seen_eq_iff.2 ⟨events, rfl, value⟩
    all_goals rfl

def ComesTo (h : Host) (arguments : List Text) (asked : Request) (config : Config) : Prop :=
  request arguments = .ok asked ∧ (Config.load h none).value = .ok config

theorem run_quiet {arguments : List Text}
    (none : ¬ ∃ asked config, ComesTo h arguments asked config) :
    Event.AllQuiet (run h arguments).events := by
  cases requested : request arguments with
  | ok asked =>
    have quiet := Config.load_quiet h Option.none
    rw [(run_accepted h requested).1]
    cases loaded : (Config.load h Option.none).value with
    | ok config => exact absurd ⟨asked, config, requested, loaded⟩ none
    | error fault =>
      cases reported : fault.isReported with
      | true =>
        rw [serve_reported asked loaded reported]
        exact quiet.append (Event.AllQuiet.complained _)
      | false =>
        rw [serve_unreported asked loaded reported]
        exact quiet.append Event.AllQuiet.nil
  | error ending =>
    unfold run
    rw [requested]
    split
    · exact Event.AllQuiet.nil
    · cases ending with
      | showHelp | showVersion => exact List.forall_mem_singleton.2 ⟨rfl, rfl⟩
      | refused fault => exact Event.AllQuiet.complained _

theorem run_session {arguments : List Text} {asked : Request} {config : Config}
    (session : ComesTo h arguments asked config) :
    ∃ before after, Event.AllQuiet before ∧ Event.AllQuiet after ∧
      (run h arguments).events = before ++
        (Session.run h asked.packages (profileFor h asked (configFor asked config)).value
          (configFor asked config) h.environ).events ++ after := by
  refine ⟨(Config.load h none).events ++ (profileFor h asked (configFor asked config)).events,
    (closing (Session.run h asked.packages (profileFor h asked (configFor asked config)).value
      (configFor asked config) h.environ).value).events,
    (Config.load_quiet h none).append (profileFor_quiet h asked _), closing_quiet _, ?_⟩
  rw [(run_accepted h session.1).1, serve_loaded asked session.2, List.append_assoc,
    List.append_assoc]
  rfl

theorem run_files {arguments : List Text} {asked : Request} {config : Config}
    (session : ComesTo h arguments asked config) :
    (run h arguments).files =
      (Session.run h asked.packages (profileFor h asked (configFor asked config)).value
        (configFor asked config) h.environ).files := by
  obtain ⟨before, after, one, two, split⟩ := run_session session
  unfold Report.files Traced.files
  rw [split, List.filterMap_append, List.filterMap_append, one.files, two.files, List.nil_append,
    List.append_nil]

theorem run_invocations (h : Host) (arguments : List Text) :
    (run h arguments).invocations = [] ∨
      ∃ argv, (run h arguments).invocations = [⟨argv, h.environ.handed⟩] := by
  unfold Report.invocations
  by_cases session : ∃ asked config, ComesTo h arguments asked config
  · obtain ⟨asked, config, comes⟩ := session
    obtain ⟨before, after, one, two, split⟩ := run_session comes
    rw [split, List.filterMap_append, List.filterMap_append, one.invocations, two.invocations,
      List.nil_append, List.append_nil]
    exact (Session.run_invocations h asked.packages _ _ h.environ).imp_right
      fun ⟨_, started⟩ => ⟨_, started⟩
  · exact .inl (run_quiet session).invocations

end CommandLine

end SandboxShell

import SandboxShell.CommandLine.Run
import SandboxShell.Proofs.CommandLine.Hooked
import SandboxShell.Proofs.Config.Loading
import SandboxShell.Proofs.Session.Named

/-!
How a run serves its request. A configuration that is reported as unusable ends it with status 1,
and nothing has been written or started. With a configuration the tool is started exactly once,
whatever goes wrong on the way there, and the status tells how the tool ended, if the system has a
form for the name of the tool. If it has none, the run is over without a status, as it is with a
configuration that is not reported.
-/

namespace SandboxShell

namespace CommandLine

def statusOf : ToolOutcome → Int
  | .exited status => if status < 0 then 128 - status else status
  | .refused _ => 1

theorem statusOf_eq_zero (tool : ToolOutcome) : statusOf tool = 0 ↔ tool = .exited 0 := by
  cases tool with
  | refused fault => simp [statusOf]
  | exited status =>
    rw [ToolOutcome.exited.injEq]
    unfold statusOf
    dsimp only
    split <;> omega

theorem statusOf_code {code : Int} (positive : 0 < code) : statusOf (.exited code) = code :=
  if_neg (by omega)

theorem statusOf_signal {signal : Int} (positive : 0 < signal) :
    statusOf (.exited (-signal)) = 128 + signal := by
  unfold statusOf
  dsimp only
  rw [if_pos (by omega)]
  omega

theorem profileFor_value (h : Host) (asked : Request) (config : Config) :
    (profileFor h asked config).value =
      ShellProfile.detect? h.environ [.plan asked.planHook, .user config.userHook] := by
  unfold profileFor Session.detect
  cases ShellProfile.detect? h.environ [.plan asked.planHook, .user config.userHook] <;> rfl

theorem profileFor_quiet (h : Host) (asked : Request) (config : Config) :
    Event.AllQuiet (profileFor h asked config).events := by
  unfold profileFor Session.detect
  cases ShellProfile.detect? h.environ [.plan asked.planHook, .user config.userHook] with
  | none => exact Event.AllQuiet.noted _ _
  | some p =>
    exact ((Event.AllQuiet.noted _ _).append (Event.AllQuiet.noted _ _)).append
      (Event.AllQuiet.noted _ _)

/-- What is left of a session after the tool has ended: at most a complaint, and the status. -/
def closing (result : Except Session.Fault Unit) : Traced (Except Escape Int) :=
  match result with
  | .ok () => pure (.ok 0)
  | .error fault =>
    if fault.isReported then do
      complain fault.message
      return .ok (exitStatus fault.status?)
    else pure (.error (.session fault))

theorem closing_quiet (result : Except Session.Fault Unit) :
    Event.AllQuiet (closing result).events := by
  unfold closing
  split
  · exact Event.AllQuiet.nil
  · split
    · exact Event.AllQuiet.complained _
    · exact Event.AllQuiet.nil

theorem closing_outcome (h : Host) (config : Config) :
    (closing (Session.outcome h config)).value = .ok (statusOf h.tool) := by
  unfold Session.outcome
  cases h.tool with
  | refused fault => rfl
  | exited status =>
    by_cases fine : status = 0
    · subst fine
      rfl
    · split
      · rename_i same
        exact absurd (ToolOutcome.exited.inj same) fine
      · rename_i code same
        obtain rfl := ToolOutcome.exited.inj same
        show Except.ok (if status = 0 then 1 else if status < 0 then 128 - status else status) = _
        rw [if_neg fine]
        rfl
      · contradiction

def Starts (h : Host) (asked : Request) (tool : Text) (invocations : List Invocation)
    (outcome : Except Escape Int) : Prop :=
  ∃ invocation options, invocations = [invocation] ∧
    invocation.argv = tool :: options ++ [asked.packages] ∧ Text.ofString "--pure" ∈ options ∧
    (Text.ofString "--command" ∈ options ↔ h.environ.value "SHELL" ≠ []) ∧
    outcome = .ok (statusOf h.tool)

theorem runSession_steps (h : Host) (asked : Request) (config : Config) :
    runSession h asked config = (profileFor h asked config >>= fun profile =>
      Session.run h asked.packages profile config h.environ >>= closing) := rfl

theorem runSession_ends {h : Host} (forms : h.Forms) (asked : Request) (config : Config)
    (hooked : asked.planHook ≠ none) :
    (h.nameFault? config.tool = none ∧ h.nameFault? asked.packages = none ∧
      Starts h asked config.tool (runSession h asked config).invocations
        (runSession h asked config).value) ∨
    ∃ fault, (h.nameFault? config.tool = some fault ∨ h.nameFault? asked.packages = some fault) ∧
      (runSession h asked config).invocations = [] ∧
      (runSession h asked config).value = .error (.session (.unnameable fault)) := by
  have textual : ∀ p, ShellProfile.detect? h.environ
      [.plan asked.planHook, .user config.userHook] = some p → p.planHook ≠ none := by
    intro p found
    rw [ShellProfile.detect?_planHook found]
    exact hooked
  unfold Traced.invocations
  rw [runSession_steps, Traced.events_bind, Traced.events_bind, Traced.value_bind,
    Traced.value_bind, profileFor_value, List.filterMap_append, List.filterMap_append,
    (profileFor_quiet h asked config).invocations, (closing_quiet _).invocations, List.append_nil,
    List.nil_append]
  rcases Session.run_ends forms asked.packages config textual with
    ⟨tool, packages, before, command, way, ran⟩ | ⟨fault, nameless, unstarted, ended⟩
  · refine .inl ⟨tool, packages, ⟨Session.argv asked.packages h.environ.sessionEntries command config,
      Environ.ofEntries h.environ.sessionEntries⟩,
      Session.options h.environ.sessionEntries command, ?_, Session.argv_eq _ _ _ _,
      Session.pure_mem_options _ _, ?_, ?_⟩
    · rw [ran, List.filterMap_append, way.invocations]
      rfl
    · rw [Session.command_mem_options, way.command_ne_none, ShellProfile.detect?_filter]
    · rw [ran]
      exact closing_outcome h config
  · refine .inr ⟨fault, nameless, unstarted, ?_⟩
    rw [ended]
    rfl

theorem serve_loaded {h : Host} (asked : Request) {config : Config}
    (loaded : (Config.load h none).value = .ok config) :
    serve h asked =
      ⟨(Config.load h none).events ++ (runSession h asked (configFor asked config)).events,
        (runSession h asked (configFor asked config)).value⟩ := by
  simp only [serve, bind, loaded]

theorem serve_reported {h : Host} (asked : Request) {fault : Config.Fault}
    (failed : (Config.load h none).value = .error fault) (reported : fault.isReported = true) :
    serve h asked =
      ⟨(Config.load h none).events ++ [.complained ("Error: " ++ fault.message ++ "\n")],
        .ok 1⟩ := by
  simp only [serve, bind, failed, reported]
  rfl

theorem serve_unreported {h : Host} (asked : Request) {fault : Config.Fault}
    (failed : (Config.load h none).value = .error fault) (unreported : fault.isReported = false) :
    serve h asked = ⟨(Config.load h none).events ++ [], .error (.config fault)⟩ := by
  simp only [serve, bind, failed, unreported]
  rfl

/-- The home directory is looked for once more than needed, which shows nowhere but in the log. -/
theorem run_accepted (h : Host) {arguments : List Text} {asked : Request}
    (accepted : request arguments = .ok asked) :
    (run h arguments).events = (serve h asked).events ∧
      (run h arguments).outcome = (serve h asked).value := by
  unfold run
  cases home : Config.homeFile h with
  | ok route =>
    rw [accepted]
    exact ⟨rfl, rfl⟩
  | error fault =>
    have loading := Config.load_of_homeless home none
    have failed := congrArg Traced.value loading
    rw [serve_unreported asked failed (Config.isReported_homeFile home), loading]
    exact ⟨rfl, rfl⟩

namespace Report

def files (r : Report) : List (Path × Bytes) := r.events.filterMap Event.file?

def invocations (r : Report) : List Invocation := r.events.filterMap Event.invocation?

end Report

/-- A run whose arguments ask for a session ends in one of four ways: it reports its configuration as
unusable, it starts the tool once and takes over its status, or it ends without a status, because the
system has no form for the tool or for the packages, or because of a configuration that is not
reported. -/
theorem run_serves (h : Host) (forms : h.Forms) (arguments : List Text) {asked : Request}
    (accepted : request arguments = .ok asked) (plain : ∀ a ∈ arguments, ¬ DividerAttached a) :
    (∀ fault, (Config.load h none).value = .error fault → fault.isReported = true →
      (run h arguments).outcome = .ok 1 ∧ (run h arguments).files = [] ∧
        (run h arguments).invocations = []) ∧
    (∀ config, (Config.load h none).value = .ok config →
      let tool := (configFor asked config).tool
      (h.nameFault? tool = none ∧ h.nameFault? asked.packages = none →
        ∃ invocation options status,
          (run h arguments).invocations = [invocation] ∧
          invocation.argv = tool :: options ++ [asked.packages] ∧
          Text.ofString "--pure" ∈ options ∧
          (Text.ofString "--command" ∈ options ↔ h.environ.value "SHELL" ≠ []) ∧
          (run h arguments).outcome = .ok status ∧ (status = 0 ↔ h.tool = .exited 0) ∧
          (∀ code, 0 < code → h.tool = .exited code → status = code) ∧
          (∀ signal, 0 < signal → h.tool = .exited (-signal) → status = 128 + signal) ∧
          (∀ fault, h.tool = .refused fault → status = 1)) ∧
      (¬ (h.nameFault? tool = none ∧ h.nameFault? asked.packages = none) →
        (run h arguments).invocations = [] ∧
          ∃ fault, (run h arguments).outcome = .error (.session (.unnameable fault)))) ∧
    (∀ fault, (Config.load h none).value = .error fault → fault.isReported = false →
      (run h arguments).outcome = .error (.config fault) ∧ (run h arguments).files = [] ∧
        (run h arguments).invocations = []) := by
  have hooked := request_planHook accepted plain
  have quiet := Config.load_quiet h none
  obtain ⟨events, outcome⟩ := run_accepted h accepted
  unfold Report.files Report.invocations
  rw [events, outcome]
  refine ⟨?_, ?_, ?_⟩
  · intro fault failed reported
    rw [serve_reported asked failed reported]
    have silent := quiet.append (Event.AllQuiet.complained ("Error: " ++ fault.message ++ "\n"))
    exact ⟨rfl, silent.files, silent.invocations⟩
  · intro config loaded
    have ends := runSession_ends forms asked (configFor asked config) hooked
    rw [serve_loaded asked loaded, List.filterMap_append, quiet.invocations]
    constructor
    · rintro ⟨tool, packages⟩
      obtain ⟨-, -, invocation, options, started, argv, pure, commanded, status⟩ |
        ⟨fault, nameless | nameless, -⟩ := ends
      · refine ⟨invocation, options, statusOf h.tool, started, argv, pure, commanded, status,
          statusOf_eq_zero h.tool, ?_, ?_, ?_⟩
        · intro code positive ended
          rw [ended, statusOf_code positive]
        · intro signal positive ended
          rw [ended, statusOf_signal positive]
        · intro fault ended
          rw [ended]
          rfl
      · cases tool.symm.trans nameless
      · cases packages.symm.trans nameless
    · intro unnamed
      obtain ⟨tool, packages, -⟩ | ⟨fault, -, unstarted, ended⟩ := ends
      · exact absurd ⟨tool, packages⟩ unnamed
      · exact ⟨unstarted, fault, ended⟩
  · intro fault failed unreported
    rw [serve_unreported asked failed unreported, List.append_nil]
    exact ⟨rfl, quiet.files, quiet.invocations⟩

/-- No directory can be made for a startup file, and a signal ends the tool. -/
theorem run_serves_signal :
    let h : Host :=
      { environ := Table.ofList [("HOME", "/h"), ("SHELL", "/bin/bash")], nesting := 991,
        directoryFault := some ⟨28, "No space left on device"⟩, tool := .exited (-9) }
    let arguments : List Text := ["--init", "make --", "--", "env.nix"]
    let asked : Request :=
      { packages := "env.nix", planHook := some "make --", tool := [], debug := false }
    h.Forms ∧ request arguments = .ok asked ∧ (∀ a ∈ arguments, ¬ DividerAttached a) ∧
      (Config.load h none).value = .ok {} ∧
      ∃ invocation options, (run h arguments).invocations = [invocation] ∧
        invocation.argv = Text.ofString "nix-shell" :: options ++ [Text.ofString "env.nix"] ∧
        Text.ofString "--pure" ∈ options ∧ Text.ofString "--command" ∈ options ∧
        (run h arguments).outcome = .ok 137 := by
  intro h arguments asked
  have forms : h.Forms := Host.forms_usual rfl (by decide) rfl
  have accepted : request arguments = .ok asked := by decide
  have plain : ∀ a ∈ arguments, ¬ DividerAttached a := by decide
  have loaded : (Config.load h none).value = .ok {} := by rfl
  obtain ⟨-, serves, -⟩ := run_serves h forms arguments accepted plain
  obtain ⟨invocation, options, status, started, argv, pure, commanded, ended, -, -, signal, -⟩ :=
    (serves {} loaded).1 (by decide)
  refine ⟨forms, accepted, plain, loaded, invocation, options, started, argv, pure,
    commanded.2 (by decide), ?_⟩
  rw [ended, signal 9 (by decide) rfl]
  rfl

/-- The configuration names a tool with a zero in its name: it is a text like any other to the loader,
and the run ends without a status and without the tool. -/
theorem run_escapes_zero :
    let h : Host :=
      { environ := Table.ofList [("HOME", "/h")], nesting := 991,
        files := Table.ofList [("/h/.boxsh/config.json",
          .bytes (Utf8.written "\x7b\"sandbox_tool\": \"a\\u0000b\"\x7d"))] }
    (Config.load h none).value = .ok { tool := "a\x00b" } ∧
      request [] = .ok { packages := "shell.nix", planHook := some [], tool := [], debug := false } ∧
      (run h []).invocations = [] ∧
      (run h []).outcome = .error (.session (.unnameable .zero)) := by
  intro h
  have forms : h.Forms := Host.forms_usual rfl (by decide) rfl
  let asked : Request :=
    { packages := "shell.nix", planHook := some [], tool := [], debug := false }
  have accepted : request [] = .ok asked := by decide
  have loaded : (Config.load h none).value = .ok { tool := "a\x00b" } := by
    have read : (Config.load h none).value.toOption = some { tool := "a\x00b" } := by
      decide +kernel
    cases ended : (Config.load h none).value with
    | ok config =>
      rw [ended] at read
      exact congrArg Except.ok (Option.some.inj read)
    | error fault =>
      rw [ended] at read
      cases read
  have zero : h.nameFault? "a\x00b" = some .zero := by decide
  obtain ⟨events, outcome⟩ := run_accepted h accepted
  unfold Report.invocations
  rw [events, outcome, serve_loaded _ loaded, List.filterMap_append,
    (Config.load_quiet h none).invocations]
  obtain ⟨named, -⟩ | ⟨fault, named | named, unstarted, ended⟩ :=
    runSession_ends forms asked { tool := "a\x00b" } (Option.some_ne_none [])
  · cases named.symm.trans zero
  · obtain rfl := Option.some.inj (named.symm.trans zero)
    exact ⟨loaded, accepted, unstarted, ended⟩
  · have packages : h.nameFault? "shell.nix" = none := by decide
    cases packages.symm.trans named

end CommandLine

end SandboxShell

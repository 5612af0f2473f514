import SandboxShell.Proofs.CommandLine.Compared

/-!
The end of the tool is awaited: nothing that comes about until its start depends on how it ends, so
that a run can be carried out up to there before the end is known, and from there on when it is. A run
without a start does not depend on it at all.
-/

namespace SandboxShell

namespace Event

theorem splitAtStart_append (events : List Event) :
    (splitAtStart events).1 ++ (splitAtStart events).2 = events := by
  induction events with
  | nil => rfl
  | cons e events ih =>
    cases e with
    | started => rfl
    | noted | madeDirectory | wrote | printed | complained => exact congrArg (List.cons _) ih

/-- What follows a start can be replaced without a change to what stands up to it. -/
theorem splitAtStart_of_started {first : List Event} (started : first.filterMap invocation? ≠ [])
    (last : List Event) : (splitAtStart (first ++ last)).1 = (splitAtStart first).1 := by
  induction first with
  | nil => exact absurd rfl started
  | cons e first ih =>
    cases e with
    | started => rfl
    | noted | madeDirectory | wrote | printed | complained =>
      exact congrArg (List.cons _) (ih started)

end Event

namespace Session

variable (h : Host) (tool : ToolOutcome)

theorem start_tool (config : Config) (invocation : Invocation) :
    (start { h with tool } config invocation).events = (start h config invocation).events ∧
      ((start h config invocation).invocations = [] →
        start { h with tool } config invocation = start h config invocation) := by
  unfold start
  dsimp only
  cases invocation.argv.findSome? h.nameFault? with
  | some fault => exact ⟨rfl, fun _ => rfl⟩
  | none => exact ⟨rfl, fun unstarted => nomatch unstarted⟩

theorem run_tool (packages : Text) (profile : Option ShellProfile) (config : Config)
    (environ : Environ) :
    (run { h with tool } packages profile config environ).events =
        (run h packages profile config environ).events ∧
      ((run h packages profile config environ).invocations = [] →
        run { h with tool } packages profile config environ =
          run h packages profile config environ) := by
  have planned : plan { h with tool } packages environ.sessionEntries profile config =
      plan h packages environ.sessionEntries profile config := rfl
  unfold run
  dsimp only
  rw [planned, Traced.events_bind, Traced.events_bind, Traced.events_bind, Traced.events_bind,
    Traced.invocations_bind, Traced.invocations_note, Traced.invocations_bind, plan_invocations]
  cases ready : (plan h packages environ.sessionEntries profile config).value with
  | error fault => exact ⟨rfl, fun _ => by simp only [bind, ready]⟩
  | ok arguments =>
    obtain ⟨events, same⟩ :=
      start_tool h tool config ⟨arguments, Environ.ofEntries environ.sessionEntries⟩
    refine ⟨by rw [events], fun unstarted => ?_⟩
    simp only [bind, ready, same unstarted]

end Session

namespace CommandLine

theorem serve_awaits (h : Host) (tool : ToolOutcome) (asked : Request) :
    (Event.splitAtStart (serve { h with tool } asked).events).1 =
        (Event.splitAtStart (serve h asked).events).1 ∧
      ((serve h asked).invocations = [] → serve { h with tool } asked = serve h asked) := by
  have load : Config.load { h with tool } none = Config.load h none := rfl
  cases loaded : (Config.load h none).value with
  | error fault =>
    have alike : serve { h with tool } asked = serve h asked := by
      simp only [serve, bind, load, loaded]
    rw [alike]
    exact ⟨rfl, fun _ => rfl⟩
  | ok config =>
    have loaded' : (Config.load { h with tool } none).value = .ok config := loaded
    obtain ⟨events, same⟩ := Session.run_tool h tool asked.packages
      (profileFor h asked (configFor asked config)).value (configFor asked config) h.environ
    have session := runSession_steps h asked (configFor asked config)
    have session' : runSession { h with tool } asked (configFor asked config) =
        (profileFor h asked (configFor asked config) >>= fun profile =>
          Session.run { h with tool } asked.packages profile (configFor asked config) h.environ >>=
            closing) := rfl
    rw [serve_loaded asked loaded, serve_loaded asked loaded', load, session, session']
    simp only [bind]
    by_cases unstarted : (Session.run h asked.packages
        (profileFor h asked (configFor asked config)).value (configFor asked config)
        h.environ).invocations = []
    · rw [same unstarted]
      exact ⟨rfl, fun _ => rfl⟩
    · -- the start is in the events of the session, so that only what follows can differ
      have early := (Config.load_quiet h none).append
        (profileFor_quiet h asked (configFor asked config))
      constructor
      · rw [events, ← List.append_assoc, ← List.append_assoc, ← List.append_assoc,
          ← List.append_assoc]
        have started : ((Config.load h none).events ++
            (profileFor h asked (configFor asked config)).events ++
            (Session.run h asked.packages (profileFor h asked (configFor asked config)).value
              (configFor asked config) h.environ).events).filterMap Event.invocation? ≠ [] := by
          rw [List.filterMap_append, early.invocations]
          exact unstarted
        rw [Event.splitAtStart_of_started started, Event.splitAtStart_of_started started]
      · intro none
        unfold Traced.invocations at none
        rw [← List.append_assoc, List.filterMap_append, early.invocations, List.nil_append,
          List.filterMap_append] at none
        exact absurd (List.append_eq_nil_iff.1 none).1 unstarted

/-- Until the tool is started, a run does not depend on how the tool ends; without a start, not at
all. -/
theorem run_awaits (h : Host) (tool : ToolOutcome) (arguments : List Text) :
    (Event.splitAtStart (run { h with tool } arguments).events).1 =
        (Event.splitAtStart (run h arguments).events).1 ∧
      ((run h arguments).invocations = [] → run { h with tool } arguments = run h arguments) := by
  have housed : Config.homeFile { h with tool } = Config.homeFile h := rfl
  unfold run
  rw [housed]
  cases Config.homeFile h with
  | error fault => exact ⟨rfl, fun _ => rfl⟩
  | ok home =>
    cases request arguments with
    | error ending => cases ending <;> exact ⟨rfl, fun _ => rfl⟩
    | ok asked =>
      obtain ⟨events, same⟩ := serve_awaits h tool asked
      exact ⟨events, fun unstarted => by simp only [same unstarted]⟩

/-- A run that is carried out in two parts, the first without knowing how the tool ends, is the run
with the end that the tool comes to. -/
theorem run_inParts (h : Host) (tool : ToolOutcome) (arguments : List Text) :
    (Event.splitAtStart (run h arguments).events).1 ++
        (Event.splitAtStart (run { h with tool } arguments).events).2 =
      (run { h with tool } arguments).events := by
  rw [← (run_awaits h tool arguments).1, Event.splitAtStart_append]

end CommandLine

end SandboxShell

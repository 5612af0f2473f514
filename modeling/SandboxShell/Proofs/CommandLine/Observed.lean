import SandboxShell.Proofs.CommandLine.Complained
import Mathlib.Data.List.Basic

/-!
What a flag for the log changes. One in front of any arguments leaves the reading of the others as it
is: each step goes as it would have gone, and so do all refusals. The run itself does not look at the
flag. All lines of its log come before whatever it complains of, so that a user who asks for the log
finds it in front of what would have been shown anyway.
-/

namespace SandboxShell

namespace CommandLine

namespace Progress

def logged (p : Progress) : Progress := { p with debug := true }

theorem actAll_logged (p : Progress) (flags : List Flag) :
    p.logged.actAll flags = (p.actAll flags).map logged := by
  induction flags generalizing p with
  | nil => rfl
  | cons f rest ih =>
    cases f with
    | help | version => rfl
    | debug => exact ih { p with debug := true }

theorem switch_logged (p : Progress) (spelling : Text) (attached : Option Text) (s : Switch) :
    p.logged.switch spelling attached s = (p.switch spelling attached s).map logged := by
  cases s with
  | flag f =>
    simp only [switch]
    cases flags f spelling attached with
    | error ending => rfl
    | ok all => exact p.actAll_logged all
  | setting s =>
    cases attached with
    | none => rfl
    | some value => cases s <;> rfl

theorem word_logged (p : Progress) (argument : Text) :
    p.logged.word argument = (p.word argument).logged := by
  simp only [word, logged]
  split <;> rfl

theorem divide_logged (p : Progress) (argument : Text) :
    p.logged.divide argument = (p.divide argument).logged := by
  by_cases free : p.packages = none ∨ p.placed <;> simp [divide, logged, free]

theorem step_logged (p : Progress) (part : Text × Mark) :
    p.logged.step part = (p.step part).map logged := by
  obtain ⟨argument, mark⟩ := part
  have awaited : p.logged.awaiting = p.awaiting := rfl
  cases waiting : p.awaiting with
  | some s =>
    simp only [step, awaited, waiting]
    cases mark with
    | word => cases s <;> rfl
    | divider | switch | unknown => rfl
  | none =>
    simp only [step, awaited, waiting]
    cases mark with
    | word => exact congrArg Except.ok (p.word_logged argument)
    | divider => exact congrArg Except.ok (p.divide_logged argument)
    | unknown => rfl
    | switch s spelling attached =>
      exact switch_logged { p with awaiting := none, placed := false } spelling attached s

theorem foldlM_logged (p : Progress) (parts : List (Text × Mark)) :
    parts.foldlM step p.logged = (parts.foldlM step p).map logged := by
  induction parts generalizing p with
  | nil => rfl
  | cons part parts ih =>
    rw [List.foldlM_cons, List.foldlM_cons, step_logged]
    cases p.step part with
    | error ending => rfl
    | ok next => exact ih next

theorem finish_logged (p : Progress) :
    p.logged.finish = p.finish.map fun asked => { asked with debug := true } := by
  have awaited : p.logged.awaiting = p.awaiting := rfl
  have left : p.logged.leftOver = p.leftOver := rfl
  unfold finish
  rw [awaited, left]
  cases p.awaiting with
  | some s => rfl
  | none => cases p.leftOver <;> rfl

end Progress

def debugFlag : Text := "-d"

theorem marked_debugFlag (arguments : List Text) :
    marked (debugFlag :: arguments) =
      (marked arguments).map ((debugFlag, .switch (.flag .debug) debugFlag none) :: ·) := by
  have whole : debugFlag ≠ divider := by decide
  have mark : markOf debugFlag = .ok (.switch (.flag .debug) debugFlag none) := by decide
  rw [marked, if_neg whole, mark]
  cases marked arguments <;> rfl

/-- A flag for the log in front changes nothing else in what is asked for, and no refusal. -/
theorem request_debugFlag (arguments : List Text) :
    request (debugFlag :: arguments) =
      (request arguments).map fun asked => { asked with debug := true } := by
  unfold request
  rw [marked_debugFlag]
  cases marked arguments with
  | error fault => rfl
  | ok parts =>
    have first : Progress.step {} (debugFlag, .switch (.flag .debug) debugFlag none) =
        .ok (Progress.logged {}) := rfl
    show ((_ :: parts).foldlM Progress.step {}).bind Progress.finish =
      ((parts.foldlM Progress.step {}).bind Progress.finish).map _
    rw [List.foldlM_cons, first]
    show (parts.foldlM Progress.step (Progress.logged {})).bind Progress.finish = _
    rw [Progress.foldlM_logged]
    cases parts.foldlM Progress.step {} with
    | error ending => rfl
    | ok progress => exact progress.finish_logged

/-- The events that come first complain of nothing, and those that come last are complaints. -/
def LogFirst (events : List Event) : Prop :=
  ∃ before after, events = before ++ after ∧ before.filterMap Event.complaint? = [] ∧
    ∀ e ∈ after, ∃ text, e = .complained text

theorem LogFirst.of_quiet {events : List Event} (none : events.filterMap Event.complaint? = []) :
    LogFirst events :=
  ⟨events, [], (List.append_nil _).symm, none, fun _ member => nomatch member⟩

theorem LogFirst.before {first events : List Event} (none : first.filterMap Event.complaint? = [])
    (last : LogFirst events) : LogFirst (first ++ events) := by
  obtain ⟨before, after, rfl, silent, complaints⟩ := last
  refine ⟨first ++ before, after, (List.append_assoc _ _ _).symm, ?_, complaints⟩
  rw [List.filterMap_append, none, silent]
  rfl

theorem LogFirst.complained (text : Text) : LogFirst [.complained text] :=
  ⟨[], [.complained text], rfl, rfl, List.forall_mem_singleton.2 ⟨text, rfl⟩⟩

theorem closing_logFirst (result : Except Session.Fault Unit) :
    LogFirst (closing result).events := by
  unfold closing
  split
  · exact .of_quiet rfl
  · split
    · exact .complained _
    · exact .of_quiet rfl

theorem runSession_logFirst (h : Host) (asked : Request) (config : Config) :
    LogFirst (runSession h asked config).events := by
  have steps : runSession h asked config =
      (profileFor h asked config >>= fun profile =>
        Session.run h asked.packages profile config h.environ >>= closing) := rfl
  rw [steps, Traced.events_bind, Traced.events_bind]
  have session := Session.run_complaints h asked.packages (profileFor h asked config).value config
    h.environ
  exact .before (profileFor_complaints h asked config) (.before session (closing_logFirst _))

theorem serve_logFirst (h : Host) (asked : Request) : LogFirst (serve h asked).events := by
  have loading := Config.load_complaints h none
  cases loaded : (Config.load h none).value with
  | ok config =>
    rw [serve_loaded asked loaded]
    exact .before loading (runSession_logFirst h asked _)
  | error fault =>
    cases reported : fault.isReported with
    | true =>
      rw [serve_reported asked loaded reported]
      exact .before loading (.complained _)
    | false =>
      rw [serve_unreported asked loaded reported]
      exact .before loading (.of_quiet rfl)

def shown (debug : Bool) : Event → Text
  | .complained t => t
  | .noted component message => if debug then logLine component message else []
  | _ => []

/-- With the log first, showing it puts it in front of what is shown without. -/
theorem LogFirst.errors_suffix {events : List Event} (first : LogFirst events) (debug : Bool)
    (outcome : Except Escape Int) :
    (Report.mk events debug outcome).errors <:+ (Report.mk events true outcome).errors := by
  obtain ⟨before, after, rfl, silent, complaints⟩ := first
  cases debug with
  | true => exact List.suffix_refl _
  | false =>
    have hidden : before.flatMap (shown false) = [] := by
      refine List.flatMap_eq_nil_iff.2 fun e member => ?_
      have none := List.filterMap_eq_nil_iff.1 silent e member
      cases e with
      | complained text => cases none
      | noted | madeDirectory | wrote | started | printed => rfl
    have same : after.flatMap (shown false) = after.flatMap (shown true) := by
      refine List.flatMap_congr fun e member => ?_
      obtain ⟨text, rfl⟩ := complaints e member
      rfl
    show (before ++ after).flatMap (shown false) <:+
      (before ++ after).flatMap (shown true)
    rw [List.flatMap_append, List.flatMap_append, hidden, same]
    exact List.suffix_append _ _

/-- Asking for the log shows the log and does nothing else, whatever the other arguments are: they
are read as before and the run ends as before, with the same output, the same files and the same
starts of the tool. The lines of the log come before all that is shown without them. -/
theorem run_observed (h : Host) (arguments : List Text) :
    let plain := run h arguments
    let observed := run h (debugFlag :: arguments)
    request (debugFlag :: arguments) =
        (request arguments).map (fun asked => { asked with debug := true }) ∧
      observed.outcome = plain.outcome ∧ observed.output = plain.output ∧
      observed.files = plain.files ∧ observed.invocations = plain.invocations ∧
      plain.errors <:+ observed.errors := by
  intro plain observed
  have asking := request_debugFlag arguments
  have unchanged (same : observed = plain) : observed.outcome = plain.outcome ∧
      observed.output = plain.output ∧ observed.files = plain.files ∧
      observed.invocations = plain.invocations ∧ plain.errors <:+ observed.errors := by
    rw [same]
    exact ⟨rfl, rfl, rfl, rfl, List.suffix_refl _⟩
  refine ⟨asking, ?_⟩
  cases housed : Config.homeFile h with
  | error fault =>
    apply unchanged
    show run h (debugFlag :: arguments) = run h arguments
    unfold run
    rw [housed]
  | ok home =>
    cases requested : request arguments with
    | error ending =>
      rw [requested] at asking
      apply unchanged
      show run h (debugFlag :: arguments) = run h arguments
      unfold run
      rw [housed, requested, asking]
      rfl
    | ok asked =>
      rw [requested] at asking
      have silent : plain = ⟨(serve h asked).events, asked.debug, (serve h asked).value⟩ := by
        show run h arguments = _
        unfold run
        rw [housed, requested]
      have loud : observed = ⟨(serve h asked).events, true, (serve h asked).value⟩ := by
        show run h (debugFlag :: arguments) = _
        unfold run
        rw [housed, asking]
        rfl
      rw [silent, loud]
      exact ⟨rfl, rfl, rfl, rfl, (serve_logFirst h asked).errors_suffix asked.debug _⟩

end CommandLine

end SandboxShell

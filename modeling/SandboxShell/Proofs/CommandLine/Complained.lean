import SandboxShell.Proofs.CommandLine.Served

/-!
What a run complains of. Neither the loading of the configuration nor the session itself complains;
all that a run with a session tells its user is how the tool ended, under the name by which it was
started.
-/

namespace SandboxShell

def Event.complaint? : Event → Option Text
  | .complained text => some text
  | _ => none

namespace Traced

variable {α β : Type}

def complaints (t : Traced α) : List Text := t.events.filterMap Event.complaint?

@[simp] theorem complaints_pure (a : α) : (pure a : Traced α).complaints = [] := rfl

@[simp] theorem complaints_emit (e : Event) : (emit e).complaints = e.complaint?.toList := by
  cases e <;> rfl

@[simp] theorem complaints_note (component : Component) (message : Text) :
    (note component message).complaints = [] := rfl

@[simp] theorem complaints_bind (t : Traced α) (f : α → Traced β) :
    (t >>= f).complaints = t.complaints ++ (f t.value).complaints := List.filterMap_append

end Traced

theorem Config.load_complaints (h : Host) (path : Option Path) :
    (load h path).complaints = [] :=
  (load_noted h path).filterMap_eq_nil fun _ => rfl

namespace ShellProfile

theorem readOwnStartup_complaints (h : Host) (path : Path) :
    (readOwnStartup h path).complaints = [] := by
  unfold readOwnStartup
  split <;> simp

theorem writeText_complaints (h : Host) (path : Path) (t : Text) :
    (writeText h path t).complaints = [] := by
  unfold writeText
  split <;> simp [Event.complaint?]

theorem writeStartup_complaints (h : Host) (p : ShellProfile) (mark : Text) :
    (p.writeStartup h mark).complaints = [] := by
  unfold writeStartup
  split
  · rfl
  · split
    · rfl
    · simp only [Traced.complaints_bind, Traced.complaints_emit, readOwnStartup_complaints]
      split
      · rfl
      · rfl
      · rw [writeText_complaints]
        rfl

end ShellProfile

namespace Session

theorem startup_complaints (h : Host) (p : ShellProfile) (config : Config) :
    (startup h p config).complaints = [] := by
  unfold startup
  split
  · rfl
  · rw [Traced.complaints_bind, p.writeStartup_complaints]
    split
    · rfl
    · split <;> rfl

theorem plan_complaints (h : Host) (packages : Text) (entries : List Text)
    (profile : Option ShellProfile) (config : Config) :
    (plan h packages entries profile config).complaints = [] := by
  unfold plan
  split
  · rfl
  · rw [Traced.complaints_bind, startup_complaints]
    split <;> rfl

theorem start_complaints (h : Host) (config : Config) (invocation : Invocation) :
    (start h config invocation).complaints = [] := by
  rcases start_cases h config invocation with ⟨-, started⟩ | ⟨_, -, _, -, ended⟩
  · exact congrArg Traced.complaints started
  · exact congrArg Traced.complaints ended

theorem run_complaints (h : Host) (packages : Text) (profile : Option ShellProfile)
    (config : Config) (environ : Environ) :
    (run h packages profile config environ).complaints = [] := by
  unfold run
  rw [Traced.complaints_bind, Traced.complaints_bind, plan_complaints]
  split
  · rfl
  · rw [start_complaints]
    rfl

end Session

namespace CommandLine

def complaintText (message : Text) : Text := "Error: " ++ message ++ "\n"

/-- What a run complains of after the end of the tool that it started under a name. -/
def complaintsOf (tool : Text) : ToolOutcome → List Text
  | .exited status =>
    if status = 0 then []
    else [complaintText (tool ++ " exited with status " ++ Text.ofInt status)]
  | .refused fault =>
    [complaintText ("failed to run " ++ tool ++ ": " ++ fault.messageAt tool)]

theorem profileFor_complaints (h : Host) (asked : Request) (config : Config) :
    (profileFor h asked config).complaints = [] := by
  have detected (settings : List HookSetting) :
      (Session.detect h.environ settings).complaints = [] := by
    unfold Session.detect
    split <;> rfl
  unfold profileFor
  rw [Traced.complaints_bind, detected]
  split <;> rfl

theorem closing_complaints (h : Host) (config : Config) :
    (closing (Session.outcome h config)).complaints = complaintsOf config.tool h.tool := by
  unfold Session.outcome
  cases h.tool with
  | refused fault => rfl
  | exited status =>
    by_cases fine : status = 0
    · subst fine
      rfl
    · have expected : complaintsOf config.tool (.exited status) =
          [complaintText (config.tool ++ " exited with status " ++ Text.ofInt status)] := if_neg fine
      rw [expected]
      split
      · rename_i same
        exact absurd (ToolOutcome.exited.inj same) fine
      · rename_i same
        obtain rfl := ToolOutcome.exited.inj same
        rfl
      · contradiction

theorem runSession_complaints {h : Host} {asked : Request} {config : Config}
    (names : h.Names config.tool asked.packages) (hooked : asked.planHook ≠ none) :
    (runSession h asked config).complaints = complaintsOf config.tool h.tool := by
  have textual : ∀ p, ShellProfile.detect? h.environ
      [.plan asked.planHook, .user config.userHook] = some p → p.planHook ≠ none := by
    intro p found
    rw [ShellProfile.detect?_planHook found]
    exact hooked
  rw [runSession_steps, Traced.complaints_bind, Traced.complaints_bind, profileFor_complaints,
    Session.run_complaints, profileFor_value]
  obtain ⟨-, -, before, command, -, ran⟩ | ⟨fault, nameless | nameless, -⟩ :=
    Session.run_ends names.forms asked.packages config textual
  · rw [ran]
    exact closing_complaints h config
  · cases names.tool.symm.trans nameless
  · cases names.packages.symm.trans nameless

def Report.complaints (r : Report) : List Text := r.events.filterMap Event.complaint?

end CommandLine

end SandboxShell

import SandboxShell.Session.Startup

/-!
How the writing of a startup file can go. There are eight ways, told apart by the first thing that
goes wrong, and each settles the events of the attempt and its answer. The events that look at the
user's own file write nothing and start nothing.
-/

namespace SandboxShell

def Event.Quiet (e : Event) : Prop := e.file? = none ∧ e.invocation? = none

def Event.AllQuiet (events : List Event) : Prop := ∀ e ∈ events, e.Quiet

namespace Event

theorem AllQuiet.files {events : List Event} (quiet : AllQuiet events) :
    events.filterMap file? = [] :=
  List.filterMap_eq_nil_iff.2 fun e member => (quiet e member).1

theorem AllQuiet.invocations {events : List Event} (quiet : AllQuiet events) :
    events.filterMap invocation? = [] :=
  List.filterMap_eq_nil_iff.2 fun e member => (quiet e member).2

theorem AllQuiet.append {first second : List Event} (one : AllQuiet first) (two : AllQuiet second) :
    AllQuiet (first ++ second) := by
  intro e member
  rcases List.mem_append.1 member with here | there
  · exact one e here
  · exact two e there

theorem AllQuiet.nil : AllQuiet [] := fun _ member => nomatch member

theorem AllQuiet.noted (component : Component) (message : Text) :
    AllQuiet [.noted component message] :=
  List.forall_mem_singleton.2 ⟨rfl, rfl⟩

theorem AllQuiet.madeDirectory (path : Path) : AllQuiet [.madeDirectory path] :=
  List.forall_mem_singleton.2 ⟨rfl, rfl⟩

theorem AllQuiet.complained (text : Text) : AllQuiet [.complained text] :=
  List.forall_mem_singleton.2 ⟨rfl, rfl⟩

end Event

theorem Host.files_afterAll_eq (h : Host) (events : List Event) :
    (h.afterAll events).files = h.files.putAll
      ((events.filterMap Event.file?).map fun file => (file.1, .bytes file.2)) := by
  induction events generalizing h with
  | nil => rfl
  | cons e events ih =>
    refine (ih (h.after e)).trans ?_
    cases e <;> rfl

namespace Host

theorem read_of_nameFault {h : Host} {path : Path} {fault : NameFault}
    (nameless : h.nameFault? path = some fault) : h.read path = .error (.unnameable fault) := by
  unfold read
  rw [nameless]

theorem read_unnameable_iff {h : Host} {path : Path} {fault : NameFault} :
    h.read path = .error (.unnameable fault) ↔ h.nameFault? path = some fault := by
  refine ⟨fun failed => ?_, read_of_nameFault⟩
  unfold read at failed
  split at failed
  · rename_i named
    obtain rfl := ReadFault.unnameable.inj (Except.error.inj failed)
    exact named
  · cases failed
  · cases failed
  · cases failed
  · cases failed

end Host

namespace ShellProfile

def ownText (h : Host) (p : ShellProfile) : Text :=
  match h.read p.startupPath with
  | .ok content => (Utf8.decode content).unifyNewlines
  | .error _ => []

theorem ownText_of_read {h : Host} {p : ShellProfile} {content : Bytes}
    (readable : h.read p.startupPath = .ok content) :
    ownText h p = (Utf8.decode content).unifyNewlines := by
  unfold ownText
  rw [readable]

theorem ownText_of_fault {h : Host} {p : ShellProfile} {fault : ReadFault}
    (failed : h.read p.startupPath = .error fault) : ownText h p = [] := by
  unfold ownText
  rw [failed]

theorem readOwnStartup_quiet (h : Host) (path : Path) :
    Event.AllQuiet (readOwnStartup h path).events := by
  unfold readOwnStartup
  split
  · exact Event.AllQuiet.nil
  · exact Event.AllQuiet.nil
  · exact Event.AllQuiet.noted _ _

theorem readOwnStartup_of_named {h : Host} {p : ShellProfile}
    (named : h.nameFault? p.startupPath = none) :
    (readOwnStartup h p.startupPath).value = .ok (ownText h p) := by
  unfold readOwnStartup ownText
  cases read : h.read p.startupPath with
  | ok content => rfl
  | error fault =>
    cases fault with
    | refused fault => rfl
    | unnameable fault => cases (Host.read_unnameable_iff.1 read).symm.trans named

theorem readOwnStartup_of_nameFault {h : Host} {p : ShellProfile} {fault : NameFault}
    (nameless : h.nameFault? p.startupPath = some fault) :
    (readOwnStartup h p.startupPath).value = .error fault := by
  unfold readOwnStartup
  rw [Host.read_of_nameFault nameless]
  rfl

def preparation (h : Host) (p : ShellProfile) : List Event :=
  .madeDirectory h.nextDirectory :: (readOwnStartup h p.startupPath).events

theorem preparation_quiet (h : Host) (p : ShellProfile) : Event.AllQuiet (p.preparation h) :=
  (Event.AllQuiet.madeDirectory _).append (readOwnStartup_quiet h p.startupPath)

def sessionPath (h : Host) (p : ShellProfile) : Path :=
  Path.under h.nextDirectory (startupName p.startupPath)

def sessionText (h : Host) (p : ShellProfile) (plan mark : Text) : Text :=
  (p.startupFile (ownText h p) plan mark).text

structure Ready (h : Host) (p : ShellProfile) (plan : Text) : Prop where
  known : p.startupPath ≠ []
  made : h.directoryFault = none
  named : h.nameFault? p.startupPath = none
  given : p.planHook = some plan

/-- How the writing of a startup file can go: the events of the attempt, and its answer. -/
inductive Writing (h : Host) (p : ShellProfile) (mark : Text) :
    Traced (Except StartupFault Path) → Prop where
  | noPath (unknown : p.startupPath = []) : Writing h p mark ⟨[], .error .noPath⟩
  | noDirectory (known : p.startupPath ≠ []) (fault : SystemFault)
      (refused : h.directoryFault = some fault) :
      Writing h p mark ⟨[], .error (.noDirectory fault)⟩
  | unnameable (known : p.startupPath ≠ []) (made : h.directoryFault = none) (fault : NameFault)
      (nameless : h.nameFault? p.startupPath = some fault) :
      Writing h p mark ⟨p.preparation h, .error (.unnameable fault)⟩
  | hookWithoutText (known : p.startupPath ≠ []) (made : h.directoryFault = none)
      (named : h.nameFault? p.startupPath = none) (missing : p.planHook = none) :
      Writing h p mark ⟨p.preparation h, .error .hookWithoutText⟩
  | notOpened (plan : Text) (ready : Ready h p plan) (fault : SystemFault)
      (refused : h.writing (p.sessionPath h) = .refused fault) :
      Writing h p mark ⟨p.preparation h, .error (.notOpened (p.sessionPath h) fault)⟩
  | notEncoded (plan : Text) (ready : Ready h p plan)
      (opened : (h.writing (p.sessionPath h)).opens = true) (fault : Utf8.WriteFault)
      (unwritable : Utf8.encode (p.sessionText h plan mark) = .error fault) :
      Writing h p mark ⟨p.preparation h ++ [.wrote (p.sessionPath h) []],
        .error (.notEncoded fault)⟩
  | notFinished (plan : Text) (ready : Ready h p plan) (count : Nat) (fault : SystemFault)
      (broken : h.writing (p.sessionPath h) = .broken count fault) (content : Bytes)
      (encoded : Utf8.encode (p.sessionText h plan mark) = .ok content) :
      Writing h p mark ⟨p.preparation h ++ [.wrote (p.sessionPath h) (content.take count)],
        .error (.notFinished fault)⟩
  | done (plan : Text) (ready : Ready h p plan) (kept : h.writing (p.sessionPath h) = .kept)
      (content : Bytes) (encoded : Utf8.encode (p.sessionText h plan mark) = .ok content) :
      Writing h p mark ⟨p.preparation h ++ [.wrote (p.sessionPath h) content,
        .noted .hooks ("wrote boxsh shellrc to: " ++ p.sessionPath h)], .ok (p.sessionPath h)⟩

theorem writeStartup_of_ready {h : Host} {p : ShellProfile} {plan : Text} (ready : Ready h p plan)
    (mark : Text) :
    p.writeStartup h mark =
      ⟨p.preparation h ++ (writeText h (p.sessionPath h) (p.sessionText h plan mark)).events,
        (writeText h (p.sessionPath h) (p.sessionText h plan mark)).value⟩ := by
  unfold writeStartup Host.freshDirectory
  rw [if_neg ready.known, ready.made]
  simp only [bind, readOwnStartup_of_named ready.named, ready.given]
  rfl

theorem writing_of_ready {h : Host} {p : ShellProfile} {plan : Text} (ready : Ready h p plan)
    (mark : Text) : Writing h p mark (p.writeStartup h mark) := by
  rw [writeStartup_of_ready ready mark]
  unfold writeText
  cases opened : h.writing (p.sessionPath h) with
  | refused fault =>
    have way : Writing h p mark _ := .notOpened plan ready fault opened
    simpa [pure] using way
  | kept =>
    cases encoded : Utf8.encode (p.sessionText h plan mark) with
    | error fault => exact .notEncoded plan ready (opened ▸ rfl) fault encoded
    | ok content => exact .done plan ready opened content encoded
  | broken count fault =>
    cases encoded : Utf8.encode (p.sessionText h plan mark) with
    | error fault => exact .notEncoded plan ready (opened ▸ rfl) fault encoded
    | ok content => exact .notFinished plan ready count fault opened content encoded

theorem writeStartup_writing (h : Host) (p : ShellProfile) (mark : Text) :
    Writing h p mark (p.writeStartup h mark) := by
  by_cases known : p.startupPath = []
  · unfold writeStartup
    rw [if_pos known]
    exact .noPath known
  cases made : h.directoryFault with
  | some fault =>
    unfold writeStartup Host.freshDirectory
    rw [if_neg known, made]
    exact .noDirectory known fault made
  | none =>
    cases named : h.nameFault? p.startupPath with
    | some fault =>
      have way : Writing h p mark _ := .unnameable known made fault named
      unfold writeStartup Host.freshDirectory
      rw [if_neg known, made]
      simp only [bind, readOwnStartup_of_nameFault named]
      simpa [preparation, pure] using way
    | none =>
      cases given : p.planHook with
      | some plan => exact writing_of_ready ⟨known, made, named, given⟩ mark
      | none =>
        have way : Writing h p mark _ := .hookWithoutText known made named given
        unfold writeStartup Host.freshDirectory
        rw [if_neg known, made]
        simp only [bind, readOwnStartup_of_named named, given]
        simpa [preparation, pure] using way

theorem writeStartup_done {h : Host} {p : ShellProfile} {mark hook : Text} {content : Bytes}
    (ready : Ready h p hook) (kept : h.writing (p.sessionPath h) = .kept)
    (encoded : Utf8.encode (p.sessionText h hook mark) = .ok content) :
    p.writeStartup h mark = ⟨p.preparation h ++ [.wrote (p.sessionPath h) content,
      .noted .hooks ("wrote boxsh shellrc to: " ++ p.sessionPath h)], .ok (p.sessionPath h)⟩ := by
  rw [writeStartup_of_ready ready, writeText, kept, encoded]
  rfl

theorem writeStartup_ok {h : Host} {p : ShellProfile} {mark : Text} {path : Path}
    (answer : (p.writeStartup h mark).value = .ok path) :
    path = p.sessionPath h ∧ h.writing path = .kept ∧
      ∃ hook content, Ready h p hook ∧ Utf8.encode (p.sessionText h hook mark) = .ok content ∧
        (p.writeStartup h mark).events = p.preparation h ++ [.wrote path content,
          .noted .hooks ("wrote boxsh shellrc to: " ++ path)] := by
  have way := p.writeStartup_writing h mark
  generalize p.writeStartup h mark = r at way answer
  cases way with
  | noPath | noDirectory | unnameable | hookWithoutText | notOpened | notEncoded | notFinished =>
    cases answer
  | done hook ready kept content encoded =>
    obtain rfl := Except.ok.inj answer
    exact ⟨rfl, kept, hook, content, ready, encoded, rfl⟩

/-- What an attempt that failed can have left: no file, or an empty one if the text has no written
form, or the beginning of the text if the writing broke off. -/
def Leaves (h : Host) (p : ShellProfile) (mark : Text) (files : List (Path × Bytes)) : Prop :=
  files = [] ∨ ∃ hook, Ready h p hook ∧
    ((∃ refusal, Utf8.encode (p.sessionText h hook mark) = .error refusal ∧
        files = [(p.sessionPath h, [])]) ∨
      ∃ count fault content, h.writing (p.sessionPath h) = .broken count fault ∧
        Utf8.encode (p.sessionText h hook mark) = .ok content ∧
        files = [(p.sessionPath h, content.take count)])

theorem writeStartup_error {h : Host} {p : ShellProfile} {mark : Text} {fault : StartupFault}
    (answer : (p.writeStartup h mark).value = .error fault) :
    Leaves h p mark (p.writeStartup h mark).files := by
  have way := p.writeStartup_writing h mark
  have quiet := p.preparation_quiet h
  generalize p.writeStartup h mark = r at way answer
  cases way with
  | noPath | noDirectory => exact .inl rfl
  | unnameable | hookWithoutText | notOpened => exact .inl quiet.files
  | notEncoded hook ready opened refusal unwritable =>
    refine .inr ⟨hook, ready, .inl ⟨refusal, unwritable, ?_⟩⟩
    rw [Traced.files, List.filterMap_append, quiet.files]
    rfl
  | notFinished hook ready count fault broken content encoded =>
    refine .inr ⟨hook, ready, .inr ⟨count, fault, content, broken, encoded, ?_⟩⟩
    rw [Traced.files, List.filterMap_append, quiet.files]
    rfl
  | done => cases answer

theorem writeStartup_invocations (h : Host) (p : ShellProfile) (mark : Text) :
    (p.writeStartup h mark).invocations = [] := by
  have way := p.writeStartup_writing h mark
  have quiet := p.preparation_quiet h
  generalize p.writeStartup h mark = r at way
  unfold Traced.invocations
  cases way with
  | noPath | noDirectory => rfl
  | unnameable | hookWithoutText | notOpened => exact quiet.invocations
  | notEncoded | notFinished | done =>
    rw [List.filterMap_append, quiet.invocations]
    rfl

/-- Where a startup file is known and its hook has a text, only a path that the system has no form for
is an obstacle to the session. -/
theorem writeStartup_fatal {h : Host} {p : ShellProfile} {mark : Text} {fault : StartupFault}
    (known : p.startupPath ≠ []) (hooked : p.planHook ≠ none)
    (answer : (p.writeStartup h mark).value = .error fault) (fatal : fault.isFatal = true) :
    ∃ reason, fault = .unnameable reason ∧ h.nameFault? p.startupPath = some reason ∧
      Event.AllQuiet (p.writeStartup h mark).events := by
  have way := p.writeStartup_writing h mark
  have quiet := p.preparation_quiet h
  generalize p.writeStartup h mark = r at way answer
  cases way with
  | noPath unknown => exact absurd unknown known
  | unnameable _ _ reason nameless =>
    obtain rfl := Except.error.inj answer
    exact ⟨reason, rfl, nameless, quiet⟩
  | hookWithoutText _ _ _ missing => exact absurd missing hooked
  | noDirectory | notOpened | notEncoded | notFinished =>
    obtain rfl := Except.error.inj answer
    cases fatal
  | done => cases answer

end ShellProfile

end SandboxShell

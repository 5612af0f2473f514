import SandboxShell.Proofs.Startup.Carried

/-!
What the startup file of a session owes to the user's own. Whether it is written, and where, does
not depend on what the user's file holds, as long as the path of that file can be written. Its bytes
do: they are the same just when the same part of the user's file is carried over, unless the writing
breaks off before it comes to the difference.
-/

namespace SandboxShell

open Utf8

def Event.outline : Event → Option Event
  | .noted _ _ => none
  | .wrote path _ => some (.wrote path [])
  | e => some e

namespace StartupFile

theorem carriedBytes_ne_nil (path : Path) (core : Bytes) (mark plan user : Text) :
    carriedBytes path core mark plan user ≠ [] := by
  intro empty
  unfold carriedBytes at empty
  simp only [List.append_eq_nil_iff] at empty
  have heading := empty.1.1.2
  unfold Section.text at heading
  simp only [written_append, List.append_eq_nil_iff] at heading
  exact absurd heading.1.1.1.1.1.1 (by decide)

theorem carriedBytes_injective {path : Path} {core other : Bytes} {mark plan user : Text}
    (same : carriedBytes path core mark plan user = carriedBytes path other mark plan user) :
    core = other := by
  unfold carriedBytes at same
  simp only [List.append_cancel_right_eq] at same
  have filled (bytes : Bytes) : sectionBytes (written path) bytes ++ written "\n" ≠ [] := by
    intro empty
    have newline := (List.append_eq_nil_iff.1 empty).2
    exact absurd newline (by decide)
  by_cases none : core = []
  · by_cases none' : other = []
    · rw [none, none']
    · rw [if_pos none, if_neg none'] at same
      exact absurd same.symm (filled other)
  · by_cases none' : other = []
    · rw [if_neg none, if_pos none'] at same
      exact absurd same (filled core)
    · rw [if_neg none, if_neg none'] at same
      unfold sectionBytes at same
      simpa only [List.append_cancel_right_eq, List.append_cancel_left_eq] using same

end StartupFile

namespace ShellProfile

variable (h : Host) (files : Table FileContent) (p : ShellProfile) (mark : Text)

theorem writable_sessionText_congr (plan : Text) (path : (Path.normalize p.startupPath).Writable) :
    (p.sessionText { h with files } plan mark).Writable ↔ (p.sessionText h plan mark).Writable :=
  (writable_sessionText_iff { h with files } path).trans (writable_sessionText_iff h path).symm

theorem preparation_outline :
    (p.preparation h).filterMap Event.outline = [.madeDirectory h.nextDirectory] := by
  unfold preparation readOwnStartup
  split <;> rfl

def outlineEvents : List Event :=
  if p.startupPath = [] ∨ h.directoryFault ≠ none then []
  else .madeDirectory h.nextDirectory ::
    if h.nameFault? p.startupPath ≠ none ∨ p.planHook = none ∨
      (h.writing (p.sessionPath h)).opens = false then [] else [.wrote (p.sessionPath h) []]

def goingOn : Except StartupFault Path → Except StartupFault (Option Path)
  | .ok path => .ok (some path)
  | .error fault => if fault.isFatal then .error fault else .ok none

open Classical in
noncomputable def outlineAnswer (writable : Prop) : Except StartupFault (Option Path) :=
  if p.startupPath = [] then .error .noPath
  else if h.directoryFault ≠ none then .ok none
  else match h.nameFault? p.startupPath with
    | some fault => .error (.unnameable fault)
    | none =>
      if p.planHook = none then .error .hookWithoutText
      else if h.writing (p.sessionPath h) = .kept ∧ writable then .ok (some (p.sessionPath h))
      else .ok none

variable {h p mark}

theorem Writing.outline {attempt : Traced (Except StartupFault Path)}
    (way : Writing h p mark attempt) :
    attempt.events.filterMap Event.outline = outlineEvents h p ∧
      goingOn attempt.value = outlineAnswer h p
        (∀ plan, p.planHook = some plan → (p.sessionText h plan mark).Writable) := by
  have prepared := preparation_outline h p
  unfold outlineEvents outlineAnswer
  cases way with
  | noPath unknown => simp [unknown, goingOn, StartupFault.isFatal]
  | noDirectory known fault refused => simp [known, refused, goingOn, StartupFault.isFatal]
  | unnameable known made fault nameless =>
    simp [known, made, nameless, prepared, goingOn, StartupFault.isFatal]
  | hookWithoutText known made named missing =>
    simp [known, made, named, missing, prepared, goingOn, StartupFault.isFatal]
  | notOpened plan ready fault refused =>
    obtain ⟨known, made, named, given⟩ := ready
    simp [known, made, named, given, refused, prepared, goingOn, StartupFault.isFatal,
      WriteOutcome.opens]
  | notEncoded plan ready opened fault unwritable =>
    obtain ⟨known, made, named, given⟩ := ready
    have unwritten : ¬ (p.sessionText h plan mark).Writable := fun writable =>
      nomatch unwritable.symm.trans (encode_of_writable writable)
    simp [known, made, named, given, opened, prepared, unwritten, goingOn, StartupFault.isFatal,
      Event.outline]
  | notFinished plan ready count fault broken content encoded =>
    obtain ⟨known, made, named, given⟩ := ready
    simp [known, made, named, given, broken, prepared, goingOn, StartupFault.isFatal,
      WriteOutcome.opens, Event.outline]
  | done plan ready kept content encoded =>
    obtain ⟨known, made, named, given⟩ := ready
    have written : (p.sessionText h plan mark).Writable := writable_of_encode encoded
    simp [known, made, named, given, kept, prepared, written, goingOn, WriteOutcome.opens,
      Event.outline]

structure Opens (h : Host) (p : ShellProfile) (plan : Text) : Prop extends Ready h p plan where
  opens : (h.writing (p.sessionPath h)).opens = true

def leftBytes (outcome : WriteOutcome) (t : Text) : Bytes :=
  match outcome, encode t with
  | .kept, .ok content => content
  | .broken count _, .ok content => content.take count
  | .refused _, _ | _, .error _ => []

theorem leftBytes_kept {t : Text} (writable : t.Writable) : leftBytes .kept t = written t := by
  unfold leftBytes
  rw [encode_of_writable writable]

theorem leftBytes_broken {t : Text} (writable : t.Writable) (count : Nat) (fault : SystemFault) :
    leftBytes (.broken count fault) t = (written t).take count := by
  unfold leftBytes
  rw [encode_of_writable writable]

theorem leftBytes_of_not_writable {t : Text} (unwritable : ¬ t.Writable) (outcome : WriteOutcome) :
    leftBytes outcome t = [] := by
  unfold leftBytes
  cases encoded : encode t with
  | ok content => exact absurd (writable_of_encode encoded) unwritable
  | error fault => cases outcome <;> rfl

theorem leftBytes_congr {t u : Text} (outcome : WriteOutcome) (writable : t.Writable ↔ u.Writable)
    (bytes : written t = written u) : leftBytes outcome t = leftBytes outcome u := by
  by_cases can : u.Writable
  · unfold leftBytes
    rw [encode_of_writable can, encode_of_writable (writable.2 can), bytes]
  · rw [leftBytes_of_not_writable can, leftBytes_of_not_writable (mt writable.1 can)]

theorem leftBytes_eq_nil {t u : Text} {outcome : WriteOutcome} (opens : outcome.opens = true)
    (writable : t.Writable ↔ u.Writable) (filled : written t ≠ [])
    (empty : leftBytes outcome t = []) : leftBytes outcome u = [] := by
  by_cases can : u.Writable
  · unfold leftBytes at empty ⊢
    rw [encode_of_writable (writable.2 can)] at empty
    rw [encode_of_writable can]
    cases outcome with
    | refused fault => cases opens
    | kept => exact absurd empty filled
    | broken count fault =>
      obtain rfl := (List.take_eq_nil_iff.1 empty).resolve_right filled
      rfl
  · exact leftBytes_of_not_writable can outcome

theorem Writing.files_of_opens {attempt : Traced (Except StartupFault Path)} {plan : Text}
    (way : Writing h p mark attempt) (opens : Opens h p plan) :
    attempt.files =
      [(p.sessionPath h, leftBytes (h.writing (p.sessionPath h)) (p.sessionText h plan mark))] := by
  obtain ⟨⟨known, made, named, given⟩, opened⟩ := opens
  have quiet := (p.preparation_quiet h).files
  unfold Traced.files leftBytes
  cases way with
  | noPath unknown => exact absurd unknown known
  | noDirectory _ fault refused => cases made.symm.trans refused
  | unnameable _ _ _ nameless => cases named.symm.trans nameless
  | hookWithoutText _ _ _ missing => cases given.symm.trans missing
  | notOpened _ _ fault refused =>
    rw [refused] at opened
    cases opened
  | notEncoded other ready _ fault unwritable =>
    obtain rfl := Option.some.inj (given.symm.trans ready.given)
    rw [List.filterMap_append, quiet, unwritable]
    cases h.writing (p.sessionPath h) <;> rfl
  | notFinished other ready count fault broken content encoded =>
    obtain rfl := Option.some.inj (given.symm.trans ready.given)
    rw [List.filterMap_append, quiet, broken, encoded]
    rfl
  | done other ready kept content encoded =>
    obtain rfl := Option.some.inj (given.symm.trans ready.given)
    rw [List.filterMap_append, quiet, kept, encoded]
    rfl

theorem Writing.files_of_blocked {attempt : Traced (Except StartupFault Path)}
    (way : Writing h p mark attempt) (blocked : ∀ plan, ¬ Opens h p plan) :
    attempt.files = [] := by
  have quiet := (p.preparation_quiet h).files
  cases way with
  | noPath | noDirectory => rfl
  | unnameable | hookWithoutText | notOpened => exact quiet
  | notEncoded plan ready opened => exact absurd ⟨ready, opened⟩ (blocked plan)
  | notFinished plan ready _ _ broken => exact absurd ⟨ready, broken ▸ rfl⟩ (blocked plan)
  | done plan ready kept => exact absurd ⟨ready, kept ▸ rfl⟩ (blocked plan)

theorem opens_files_iff (files : Table FileContent) (plan : Text) :
    Opens { h with files } p plan ↔ Opens h p plan :=
  ⟨fun ⟨⟨known, made, named, given⟩, opens⟩ => ⟨⟨known, made, named, given⟩, opens⟩,
    fun ⟨⟨known, made, named, given⟩, opens⟩ => ⟨⟨known, made, named, given⟩, opens⟩⟩

theorem files_of_blocked_congr (mark : Text) (files : Table FileContent)
    (blocked : ∀ plan, ¬ Opens h p plan) :
    (p.writeStartup { h with files } mark).files = [] ∧ (p.writeStartup h mark).files = [] :=
  ⟨(p.writeStartup_writing { h with files } mark).files_of_blocked fun plan opens =>
      blocked plan ((opens_files_iff files plan).1 opens),
    (p.writeStartup_writing h mark).files_of_blocked blocked⟩

/-- With the same carried over from the user's, the startup file is the same; and so it is if there is
nothing in it. -/
theorem writeStartup_files_of_carried (files : Table FileContent)
    (path : (Path.normalize p.startupPath).Writable)
    (carried : (∃ place content, (place, content) ∈ (p.writeStartup h mark).files ∧ content ≠ []) →
      written (p.ownText { h with files }).trim = written (p.ownText h).trim) :
    (p.writeStartup { h with files } mark).files = (p.writeStartup h mark).files := by
  by_cases opens : ∃ plan, Opens h p plan
  · obtain ⟨plan, opens⟩ := opens
    have opens' := (opens_files_iff files plan).2 opens
    have one := (p.writeStartup_writing h mark).files_of_opens opens
    have writable := writable_sessionText_congr h files p mark plan path
    rw [one] at carried
    rw [one, (p.writeStartup_writing { h with files } mark).files_of_opens opens']
    refine congrArg (fun bytes => [(p.sessionPath h, bytes)]) ?_
    by_cases empty :
        leftBytes (h.writing (p.sessionPath h)) (p.sessionText h plan mark) = []
    · have filled : written (p.sessionText h plan mark) ≠ [] := by
        rw [written_sessionText]
        exact StartupFile.carriedBytes_ne_nil _ _ _ _ _
      rw [empty]
      exact leftBytes_eq_nil opens.opens writable.symm filled empty
    · refine leftBytes_congr _ writable ?_
      rw [written_sessionText, written_sessionText,
        carried ⟨_, _, List.mem_singleton_self _, empty⟩]
  · obtain ⟨one, two⟩ := files_of_blocked_congr mark files (not_exists.1 opens)
    rw [one, two]

/-- Where no writing breaks off, the startup file is the same only with the same carried over from the
user's, unless there is nothing in it. -/
theorem carried_of_writeStartup_files {files : Table FileContent}
    (path : (Path.normalize p.startupPath).Writable)
    (whole : ∀ count fault, h.writing (p.sessionPath h) ≠ .broken count fault)
    (same : (p.writeStartup { h with files } mark).files = (p.writeStartup h mark).files)
    (filled : ∃ place content, (place, content) ∈ (p.writeStartup h mark).files ∧ content ≠ []) :
    written (p.ownText { h with files }).trim = written (p.ownText h).trim := by
  obtain ⟨place, content, member, filled⟩ := filled
  by_cases opens : ∃ plan, Opens h p plan
  · obtain ⟨plan, opens⟩ := opens
    have opens' := (opens_files_iff files plan).2 opens
    have writable := writable_sessionText_congr h files p mark plan path
    have kept : h.writing (p.sessionPath h) = .kept := by
      have opened := opens.opens
      cases outcome : h.writing (p.sessionPath h) with
      | kept => rfl
      | refused fault =>
        rw [outcome] at opened
        cases opened
      | broken count fault => exact absurd outcome (whole count fault)
    have kept' : Host.writing { h with files } (p.sessionPath { h with files }) = .kept := kept
    rw [(p.writeStartup_writing h mark).files_of_opens opens, kept] at same member
    rw [(p.writeStartup_writing { h with files } mark).files_of_opens opens', kept'] at same
    by_cases can : (p.sessionText h plan mark).Writable
    · rw [leftBytes_kept can, leftBytes_kept (writable.2 can), written_sessionText,
        written_sessionText] at same
      exact StartupFile.carriedBytes_injective (Prod.mk.inj (List.cons.inj same).1).2
    · rw [leftBytes_of_not_writable can] at member
      exact absurd (Prod.mk.inj (List.mem_singleton.1 member)).2 filled
  · rw [(files_of_blocked_congr mark files (not_exists.1 opens)).2] at member
    cases member

end ShellProfile

end SandboxShell

import SandboxShell.Proofs.Startup.Outline

/-!
When the writing of a startup file fails, and what it leaves. It fails just when no directory can be
made, when the new file cannot be opened or the writing breaks off, or when the text holds a surrogate
that stands for no byte. Such a surrogate comes from a hook or from the mark of the prompt, never from
the user's own file, whatever is in there. A failure leaves all files as they are, but for the new one
if it was opened: that is empty, or holds the beginning of its text.
-/

namespace SandboxShell

open Utf8

/-- A lone surrogate that stands for no byte: it is none of U+DC80 to U+DCFF. -/
def Symbol.Byteless (s : Symbol) : Prop :=
  s.isChar = false ∧ ¬ (0xDC80 ≤ s.code ∧ s.code ≤ 0xDCFF)

instance (s : Symbol) : Decidable s.Byteless := inferInstanceAs (Decidable (_ ∧ _))

theorem Symbol.byteless_iff {s : Symbol} : s.Byteless ↔ isWritable s = false := by
  unfold Byteless
  cases s with
  | char c => simp [isChar, isWritable, symbolBytes?]
  | lone n =>
    simp only [isChar, code, isWritable, symbolBytes?, true_and]
    split_ifs with stands
    · simp only [Option.isSome_some, Bool.true_eq_false, iff_false, not_not]
      omega
    · simp only [Option.isSome_none, iff_true]
      omega

def Text.Byteless (t : Text) : Prop := ∃ s ∈ t, s.Byteless

instance (t : Text) : Decidable t.Byteless := inferInstanceAs (Decidable (∃ s ∈ t, _))

theorem Text.byteless_iff {t : Text} : t.Byteless ↔ ¬ t.Writable := by
  unfold Byteless Writable
  simp only [Symbol.byteless_iff, not_forall, Bool.not_eq_true, exists_prop]

/-- At a path there is nothing that can be read, or nothing but blanks. -/
def Host.Hollow (h : Host) (path : Path) : Prop :=
  ∀ content, h.read path = .ok content → BlankBytes content

namespace ShellProfile

variable {h : Host} {p : ShellProfile}

theorem trim_ownText_of_hollow (hollow : h.Hollow p.startupPath) : (p.ownText h).trim = [] := by
  apply Text.trim_eq_nil
  cases found : h.read p.startupPath with
  | error fault =>
    rw [ownText_of_fault found]
    exact fun _ member => nomatch member
  | ok content =>
    obtain ⟨blanks, blank, rfl⟩ := (blankBytes_iff content).1 (hollow content found)
    have read : decode (written blanks) = blanks := by
      have chars := decode_chars_append blanks (plain_of_blanks blank) []
      rw [List.append_nil, decode, List.append_nil] at chars
      exact chars
    rw [ownText_of_read found, read]
    intro s member
    rcases Text.mem_unifyNewlines member with rfl | inside
    · rfl
    · exact blank s inside

theorem sessionText_of_hollow {files : Table FileContent} (hollow : h.Hollow p.startupPath)
    (hollow' : Host.Hollow { h with files } p.startupPath) (plan mark : Text) :
    p.sessionText { h with files } plan mark = p.sessionText h plan mark := by
  unfold sessionText startupFile
  rw [trim_ownText_of_hollow hollow, trim_ownText_of_hollow hollow']

def verdict (h : Host) (p : ShellProfile) (text : Text) : Except StartupFault Path :=
  match h.directoryFault, h.writing (p.sessionPath h), encode text with
  | some fault, _, _ => .error (.noDirectory fault)
  | none, .refused fault, _ => .error (.notOpened (p.sessionPath h) fault)
  | none, .kept, .error fault | none, .broken .., .error fault => .error (.notEncoded fault)
  | none, .broken _ fault, .ok _ => .error (.notFinished fault)
  | none, .kept, .ok _ => .ok (p.sessionPath h)

variable {plan mark text : Text}

theorem writeStartup_value (known : p.startupPath ≠ []) (named : h.nameFault? p.startupPath = none)
    (given : p.planHook = some plan) :
    (p.writeStartup h mark).value = verdict h p (p.sessionText h plan mark) := by
  have way := p.writeStartup_writing h mark
  generalize p.writeStartup h mark = attempt at way
  unfold verdict
  cases way with
  | noPath unknown => exact absurd unknown known
  | noDirectory _ fault refused => rw [refused]
  | unnameable _ _ fault nameless => cases named.symm.trans nameless
  | hookWithoutText _ _ _ missing => cases given.symm.trans missing
  | notOpened _ ready fault refused => rw [ready.made, refused]
  | notEncoded other ready opened fault unwritable =>
    obtain rfl := Option.some.inj (given.symm.trans ready.given)
    rw [ready.made, unwritable]
    cases outcome : h.writing (p.sessionPath h) with
    | refused => cases (congrArg WriteOutcome.opens outcome).symm.trans opened
    | kept | broken => rfl
  | notFinished other ready count fault broken content encoded =>
    obtain rfl := Option.some.inj (given.symm.trans ready.given)
    rw [ready.made, broken, encoded]
  | done other ready kept content encoded =>
    obtain rfl := Option.some.inj (given.symm.trans ready.given)
    rw [ready.made, kept, encoded]

theorem verdict_fails_iff : (∃ fault, verdict h p text = .error fault) ↔
    h.directoryFault ≠ none ∨ h.writing (p.sessionPath h) ≠ .kept ∨ text.Byteless := by
  unfold verdict
  cases h.directoryFault with
  | some fault => simp
  | none =>
    cases h.writing (p.sessionPath h) with
    | refused fault => simp
    | broken count fault => cases encode text <;> simp
    | kept =>
      cases encoded : encode text with
      | error fault =>
        have byteless : text.Byteless := Text.byteless_iff.2 fun writable =>
          nomatch encoded.symm.trans (encode_of_writable writable)
        simp [byteless]
      | ok content =>
        have writable : text.Writable := writable_of_encode encoded
        simp [Text.byteless_iff, writable]

theorem verdict_answer (h : Host) (p : ShellProfile) (text : Text) :
    verdict h p text = .ok (p.sessionPath h) ∨
      ∃ fault, verdict h p text = .error fault ∧ fault.isFatal = false := by
  unfold verdict
  split
  · exact .inr ⟨_, rfl, rfl⟩
  · exact .inr ⟨_, rfl, rfl⟩
  · exact .inr ⟨_, rfl, rfl⟩
  · exact .inr ⟨_, rfl, rfl⟩
  · exact .inr ⟨_, rfl, rfl⟩
  · exact .inl rfl

theorem not_opens
    (blocked : h.directoryFault ≠ none ∨ (h.writing (p.sessionPath h)).opens = false) :
    ∀ hook, ¬ Opens h p hook := by
  rintro hook ⟨ready, opened⟩
  exact blocked.elim (fun directory => directory ready.made)
    fun shut => Bool.false_ne_true (shut.symm.trans opened)

theorem writeStartup_leaves (h : Host) (p : ShellProfile) (mark : Text) :
    (h.afterAll (p.writeStartup h mark).events).files =
      h.files.putAll ((p.writeStartup h mark).files.map fun file => (file.1, .bytes file.2)) :=
  h.files_afterAll_eq _

theorem writeStartup_of_hollow {files : Table FileContent} (known : p.startupPath ≠ [])
    (named : h.nameFault? p.startupPath = none) (given : p.planHook = some plan)
    (hollow : h.Hollow p.startupPath) (hollow' : Host.Hollow { h with files } p.startupPath) :
    (p.writeStartup { h with files } mark).value = (p.writeStartup h mark).value ∧
      (p.writeStartup { h with files } mark).files = (p.writeStartup h mark).files := by
  have text := sessionText_of_hollow hollow hollow' plan mark
  have named' : Host.nameFault? { h with files } p.startupPath = none := named
  constructor
  · rw [writeStartup_value known named given, writeStartup_value known named' given, text]
    rfl
  · by_cases opens : Opens h p plan
    · have opens' := (opens_files_iff files plan).2 opens
      rw [(p.writeStartup_writing h mark).files_of_opens opens,
        (p.writeStartup_writing { h with files } mark).files_of_opens opens', text]
      rfl
    · have blocked : ∀ hook, ¬ Opens h p hook := by
        intro hook other
        obtain rfl := Option.some.inj (given.symm.trans other.given)
        exact opens other
      obtain ⟨one, two⟩ := files_of_blocked_congr mark files blocked
      rw [one, two]

theorem byteless_sessionText_iff (path : p.startupPath.Writable) :
    (p.sessionText h plan mark).Byteless ↔
      mark.Byteless ∨ plan.Byteless ∨ p.userHook.Byteless := by
  simp only [Text.byteless_iff, writable_sessionText_iff h (writable_normalize path)]
  tauto

/-- Where the system has a form for the path of the user's startup file, the writing of the session's
fails just when the machine refuses a directory, does not keep the whole new file, or when a symbol of
the text stands for no byte, which only a hook or the mark can bring in. It leaves the new file with
its whole text, with the beginning that got there, or empty, and the other files are as before. -/
theorem writeStartup_fails_iff (h : Host) (p : ShellProfile) (plan mark : Text)
    (known : p.startupPath ≠ []) (named : h.nameFault? p.startupPath = none)
    (given : p.planHook = some plan) :
    let attempt := p.writeStartup h mark
    let after := h.afterAll attempt.events
    let text := p.sessionText h plan mark
    let outcome := h.writing (p.sessionPath h)
    ((∃ fault, attempt.value = .error fault) ↔
      h.directoryFault ≠ none ∨ outcome ≠ .kept ∨ text.Byteless) ∧
    (attempt.value = .ok (p.sessionPath h) ∨
      ∃ fault, attempt.value = .error fault ∧ fault.isFatal = false) ∧
    (h.directoryFault ≠ none ∨ outcome.opens = false → after.files = h.files) ∧
    (h.directoryFault = none → outcome.opens = true → text.Byteless →
      after.files = h.files.put (p.sessionPath h) (.bytes [])) ∧
    (h.directoryFault = none → ¬ text.Byteless →
      (outcome = .kept → after.files = h.files.put (p.sessionPath h) (.bytes (written text))) ∧
      ∀ count fault, outcome = .broken count fault →
        after.files = h.files.put (p.sessionPath h) (.bytes ((written text).take count))) ∧
    (p.startupPath.Writable →
      (text.Byteless ↔ mark.Byteless ∨ plan.Byteless ∨ p.userHook.Byteless) ∧
      ∀ files, (∃ fault, (p.writeStartup { h with files } mark).value = .error fault) ↔
        ∃ fault, attempt.value = .error fault) ∧
    ∀ files, h.Hollow p.startupPath → Host.Hollow { h with files } p.startupPath →
      (p.writeStartup { h with files } mark).value = attempt.value ∧
      (p.writeStartup { h with files } mark).files = attempt.files := by
  intro attempt after text outcome
  have way := p.writeStartup_writing h mark
  have value : attempt.value = verdict h p text := writeStartup_value known named given
  have leaves : after.files = _ := writeStartup_leaves h p mark
  have left (made : h.directoryFault = none) (opened : outcome.opens = true) :
      after.files = h.files.put (p.sessionPath h) (.bytes (leftBytes outcome text)) := by
    rw [leaves, way.files_of_opens ⟨⟨known, made, named, given⟩, opened⟩]
    rfl
  rw [value]
  refine ⟨verdict_fails_iff, verdict_answer h p text, ?_, ?_, ?_, ?_, ?_⟩
  · intro blocked
    rw [leaves, way.files_of_blocked (not_opens blocked)]
    rfl
  · intro made opened byteless
    rw [left made opened, leftBytes_of_not_writable (Text.byteless_iff.1 byteless)]
  · intro made sound
    rw [Text.byteless_iff, not_not] at sound
    constructor
    · intro kept
      rw [left made (kept ▸ rfl), kept, leftBytes_kept sound]
    · intro count fault broken
      rw [left made (broken ▸ rfl), broken, leftBytes_broken sound]
  · intro path
    refine ⟨byteless_sessionText_iff path, fun files => ?_⟩
    have named' : Host.nameFault? { h with files } p.startupPath = none := named
    rw [writeStartup_value known named' given, verdict_fails_iff, verdict_fails_iff,
      byteless_sessionText_iff path, byteless_sessionText_iff path]
    rfl
  · intro files hollow hollow'
    rw [← value]
    exact writeStartup_of_hollow known named given hollow hollow'

/-- A hook holds a surrogate that stands for no byte, and then one that stands for the byte 0x80; the
user's file holds a surrogate in the form of UTF-8, which stands for three bytes. -/
theorem writeStartup_fails_surrogate :
    let h : Host :=
      { environ := Table.empty, nesting := 991,
        files := Table.empty.put "/h/.bashrc" (.bytes [0xED, 0xA0, 0x80, 0x0D]) }
    let p (hook : Text) : ShellProfile :=
      { kind := .bash, program := "/bin/bash", startupPath := "/h/.bashrc", userHook := hook }
    let blank : Host := { h with files := Table.ofList [("/h/.bashrc", .bytes [0x0D, 0x20])] }
    (∀ hook, (p hook).startupPath ≠ [] ∧ h.nameFault? (p hook).startupPath = none ∧
        (p hook).planHook = some []) ∧
      (∃ fault, ((p [.lone 0]).writeStartup h "").value = .error fault ∧ fault.isFatal = false) ∧
      (h.afterAll ((p [.lone 0]).writeStartup h "").events).files =
        h.files.put "/tmp/boxsh0001/.bashrc" (.bytes []) ∧
      ((p [.lone 0x480]).writeStartup h "").value = .ok "/tmp/boxsh0001/.bashrc" ∧
      ((p []).writeStartup { blank with files := Table.empty } "").files =
        ((p []).writeStartup blank "").files := by
  intro h p blank
  have known (hook : Text) : (p hook).startupPath ≠ [] := List.cons_ne_nil _ _
  have named (hook : Text) : h.nameFault? (p hook).startupPath = none := by
    show Text.nameFault? "/h/.bashrc" = none
    decide
  have path (hook : Text) : (p hook).startupPath.Writable := Text.writable_ofString "/h/.bashrc"
  have place (hook : Text) : (p hook).sessionPath h = "/tmp/boxsh0001/.bashrc" := by
    show Path.under (FreshDirectory.numbered 0).path (startupName "/h/.bashrc") = _
    decide
  have kept (hook : Text) : h.writing ((p hook).sessionPath h) = .kept := by
    rw [place]
    decide
  have blanks : blank.Hollow "/h/.bashrc" := by
    intro content found
    obtain rfl : [0x0D, 0x20] = content := Except.ok.inj found
    exact ⟨['\r', ' '], by simp [isBlankCode], by decide⟩
  have missing : Host.Hollow { blank with files := Table.empty } "/h/.bashrc" := by
    intro content found
    cases found
  obtain ⟨fails, ends, -, empty, -, source, -⟩ :=
    writeStartup_fails_iff h (p [.lone 0]) [] [] (known _) (named _) rfl
  obtain ⟨fails', ends', -, -, -, source', -⟩ :=
    writeStartup_fails_iff h (p [.lone 0x480]) [] [] (known _) (named _) rfl
  obtain ⟨-, -, -, -, -, -, state⟩ :=
    writeStartup_fails_iff blank (p []) [] [] (known []) (named []) rfl
  have byteless : ((p [.lone 0]).sessionText h [] []).Byteless :=
    (source (path _)).1.2 (.inr (.inr (by decide)))
  have sound : ¬ ((p [.lone 0x480]).sessionText h [] []).Byteless := by
    rw [(source' (path _)).1]
    decide
  refine ⟨fun hook => ⟨known hook, named hook, rfl⟩, ?_, ?_, ?_,
    (state Table.empty blanks missing).2⟩
  · obtain ⟨fault, answer⟩ := fails.2 (.inr (.inr byteless))
    refine ends.resolve_left fun done => ?_
    cases done.symm.trans answer
  · rw [← place [.lone 0]]
    exact empty rfl (kept [.lone 0] ▸ rfl) byteless
  · rw [← place [.lone 0x480]]
    refine ends'.resolve_right ?_
    rintro ⟨fault, answer, -⟩
    rcases fails'.1 ⟨fault, answer⟩ with refused | lost | byteless'
    · exact refused rfl
    · exact lost (kept [.lone 0x480])
    · exact sound byteless'

/-- A disk that is full after nine bytes: the attempt fails though the file was opened and the text
has a written form, and the beginning of it is left. -/
theorem writeStartup_torn :
    let h : Host :=
      { environ := Table.empty, nesting := 991,
        writing := fun _ => .broken 9 ⟨28, "No space left on device"⟩ }
    let p : ShellProfile := { kind := .bash, program := "/bin/bash", startupPath := "/h/.bashrc" }
    h.directoryFault = none ∧ (h.writing (p.sessionPath h)).opens = true ∧
      ¬ (p.sessionText h [] []).Byteless ∧
      (p.writeStartup h []).value = .error (.notFinished ⟨28, "No space left on device"⟩) ∧
      (h.afterAll (p.writeStartup h []).events).files.find? "/tmp/boxsh0001/.bashrc" =
        some (.bytes (written "# Begin b")) ∧
      h.files.find? "/tmp/boxsh0001/.bashrc" = none := by
  decide +kernel

end ShellProfile

end SandboxShell

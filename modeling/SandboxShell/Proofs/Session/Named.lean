import SandboxShell.Proofs.Session.Launching
import SandboxShell.Proofs.Shell.Detection
import SandboxShell.Proofs.Startup.Carried
import SandboxShell.Proofs.Table

/-!
Which names the system has forms for. It takes a text whose symbols all stand for bytes other than
zero. The commands that a session comes to are put together from the user's environment and from a
directory that the system named itself, so they are texts of that kind. Of the tool's arguments only
the tool itself and the packages can be others.
-/

namespace SandboxShell

open Utf8

theorem zero_mem_encodeChar {c : Char} (member : 0 ∈ String.utf8EncodeChar c) : c = '\x00' := by
  obtain ⟨first, more, sequence, -, continued⟩ := encodeChar_eq_cons c
  have read := next?_encodeChar c []
  rw [sequence] at member read
  rcases List.mem_cons.1 member with rfl | later
  · exact (Prod.mk.inj (Option.some.inj read)).1.symm
  · exact absurd (continued 0 later) (by decide)

theorem zero_mem_symbolBytes {s : Symbol} : 0 ∈ (symbolBytes? s).getD [] ↔ s = .char '\x00' := by
  constructor
  · intro member
    cases s with
    | char c => exact congrArg Symbol.char (zero_mem_encodeChar member)
    | lone n =>
      dsimp only [symbolBytes?] at member
      split at member
      · have byte := congrArg UInt8.toNat (List.mem_singleton.1 member)
        rw [byte_toNat (by omega)] at byte
        change 0 = n.val - 0x400 at byte
        omega
      · cases member
  · rintro rfl
    decide

namespace Text

def Passable (t : Text) : Prop := ∀ s ∈ t, isWritable s = true ∧ s ≠ .char '\x00'

instance (t : Text) : Decidable t.Passable := inferInstanceAs (Decidable (∀ s ∈ t, _))

theorem nameFault?_eq_none_iff {t : Text} : t.nameFault? = none ↔ t.Passable := by
  have bytes : 0 ∈ written t ↔ .char '\x00' ∈ t := by
    unfold written
    simp only [List.mem_flatMap, zero_mem_symbolBytes, exists_eq_right]
  unfold nameFault?
  cases encoded : encode t with
  | error fault =>
    refine iff_of_false (fun none => nomatch none) fun passable => ?_
    cases encoded.symm.trans (encode_of_writable fun s member => (passable s member).1)
  | ok content =>
    obtain ⟨writable, rfl⟩ := encode_eq_ok_iff.1 encoded
    dsimp only
    split
    · rename_i zero
      exact iff_of_false (fun none => nomatch none)
        fun passable => (passable _ (bytes.1 zero)).2 rfl
    · rename_i other
      refine iff_of_true rfl fun s member => ⟨writable s member, ?_⟩
      rintro rfl
      exact other (bytes.2 member)

theorem passable_append_iff {t u : Text} : Passable (t ++ u) ↔ t.Passable ∧ u.Passable :=
  List.forall_mem_append

end Text

namespace Path

theorem passable_normalize {path : Path} (passable : path.Passable) :
    (normalize path).Passable := by
  intro s member
  rcases mem_normalize member with rfl | rfl | inside
  · decide
  · decide
  · exact passable s inside

theorem passable_baseName {path : Path} (passable : path.Passable) : (baseName path).Passable := by
  intro s member
  have inside := List.takeWhile_subset _ (List.mem_reverse.1 member)
  exact passable s (List.mem_reverse.1 inside)

theorem passable_under {d p : Path} (directory : d.Passable) (passable : p.Passable) :
    (under d p).Passable := by
  have slash : (Text.ofString "/").Passable := by decide
  unfold under
  split
  · exact passable
  · split
    · exact Text.passable_append_iff.2 ⟨directory, passable⟩
    · exact Text.passable_append_iff.2
        ⟨Text.passable_append_iff.2 ⟨directory, slash⟩, passable⟩

end Path

/-- The system has a form for every text without zeros and byteless symbols, and of this kind are the
values that it hands to the program and the directories that it makes. -/
structure Host.Forms (h : Host) : Prop where
  takes : ∀ t : Text, t.Passable → h.nameFault? t = none
  values : ∀ name, (h.environ.value name).Passable
  fresh : ∀ n, Text.Passable (h.fresh n).path

structure Host.Names (h : Host) (tool packages : Text) : Prop where
  forms : h.Forms
  tool : h.nameFault? tool = none
  packages : h.nameFault? packages = none

theorem Host.forms_usual {h : Host} (naming : h.nameFault? = Text.nameFault?)
    (values : ∀ pair ∈ h.environ.entries, pair.2.Passable)
    (fresh : h.fresh = FreshDirectory.numbered) : h.Forms where
  takes t passable := by
    rw [naming]
    exact Text.nameFault?_eq_none_iff.2 passable
  values name := by
    unfold Environ.value
    cases found : h.environ.find? name with
    | none => exact fun _ member => nomatch member
    | some value => exact values _ (Entries.mem_of_find? found)
  fresh n := by
    rw [fresh]
    refine Text.passable_append_iff.2 ⟨by decide, fun s member => ?_⟩
    obtain ⟨c, digit, rfl⟩ := Path.digit_of_mem_digits member
    refine ⟨rfl, fun zero => ?_⟩
    obtain rfl := Symbol.char.inj zero
    cases digit

namespace ShellProfile

theorem passable_startupPathOf {environ : Environ} (values : ∀ name, (environ.value name).Passable)
    (kind : ShellKind) : (startupPathOf environ kind).Passable := by
  have nothing : Text.Passable [] := fun _ member => nomatch member
  have home (name : Text) (passable : name.Passable) : (homeFile environ name).Passable := by
    unfold homeFile
    dsimp only
    split
    · exact nothing
    · exact Path.passable_under (values "HOME") passable
  cases kind with
  | bash => exact home ".bashrc" (by decide)
  | zsh => exact home ".zshrc" (by decide)
  | ksh => exact home ".kshrc" (by decide)
  | unknown => exact nothing
  | posix =>
    unfold startupPathOf
    dsimp only
    split
    · decide
    · exact values "ENV"

theorem passable_sessionPath {h : Host} {p : ShellProfile} (forms : h.Forms)
    (path : p.startupPath.Passable) : (p.sessionPath h).Passable := by
  refine Path.passable_under (forms.fresh h.directories) ?_
  unfold startupName
  dsimp only
  split
  · decide
  · exact Path.passable_baseName path

theorem passable_plainCommand {p : ShellProfile} (program : p.program.Passable) :
    p.plainCommand.Passable := by
  have words : (Text.ofString "exec env \"SHELL=").Passable ∧ (Text.ofString "\" ").Passable := by
    decide
  simp only [plainCommand, Text.passable_append_iff, program, words, and_self]

theorem passable_pointingCommand {p : ShellProfile} (program : p.program.Passable)
    {startup directory : Path} (path : startup.Passable) (around : Path.dirName startup = directory)
    (passable : directory.Passable) : (p.pointingCommand startup).Passable := by
  have words : (Text.ofString "exec env \"SHELL=").Passable ∧ (Text.ofString "\" ").Passable ∧
      (Text.ofString " --rcfile \"").Passable ∧ (Text.ofString "\"").Passable ∧
      (Text.ofString "\" \"ZDOTDIR=").Passable ∧ (Text.ofString "\" \"ENV=").Passable := by
    decide
  unfold pointingCommand
  cases p.kind with
  | unknown => exact passable_plainCommand program
  | bash | zsh | ksh | posix =>
    simp only [Text.passable_append_iff, program, path, around, passable, words, and_self]

end ShellProfile

namespace Session

variable {h : Host} {environ : Environ} {settings : List HookSetting} {mark : Text}

theorem Launching.passable (forms : h.Forms) {before : List Event} {command : Option Text}
    (way : Launching h (ShellProfile.detect? h.environ settings) mark before command) :
    ∀ text, command = some text → text.Passable := by
  have program {p : ShellProfile} (found : (ShellProfile.detect? h.environ settings).filter
      (·.program ≠ []) = some p) : p.program.Passable ∧ p.startupPath.Passable := by
    obtain ⟨-, program, path⟩ := ShellProfile.detect?_eq (Option.filter_eq_some_iff.1 found).1
    rw [program, path]
    exact ⟨Path.passable_normalize (forms.values "SHELL"),
      ShellProfile.passable_startupPathOf forms.values p.kind⟩
  rintro text rfl
  cases way with
  | plain p found | unwritten p found => exact p.passable_plainCommand (program found).1
  | pointed p found _ path answer =>
    obtain ⟨rfl, -⟩ := p.writeStartup_ok answer
    exact p.passable_pointingCommand (program found).1
      (p.passable_sessionPath forms (program found).2) (p.dirName_sessionPath h)
      (forms.fresh h.directories)

theorem keepList_passable : ∀ name ∈ Environ.keepList, Text.Passable name := by
  decide +kernel

theorem passable_keepArguments (entries : List Text) :
    ∀ argument ∈ Environ.keepArguments entries, Text.Passable argument := by
  intro argument member
  obtain ⟨name, kept, pair⟩ := List.mem_flatMap.1 member
  rcases List.mem_cons.1 pair with rfl | last
  · decide
  · obtain rfl := List.mem_singleton.1 last
    exact keepList_passable argument (of_decide_eq_true (List.mem_filter.1 kept).2)

theorem passable_options (entries : List Text) {command : Option Text}
    (commanded : ∀ text, command = some text → text.Passable) :
    ∀ argument ∈ options entries command, Text.Passable argument := by
  unfold options
  refine List.forall_mem_append.2 ⟨List.forall_mem_append.2 ⟨?_,
    List.forall_mem_singleton.2 (by decide)⟩, passable_keepArguments entries⟩
  cases command with
  | none => exact fun _ member => nomatch member
  | some text =>
    exact List.forall_mem_cons.2 ⟨by decide, List.forall_mem_singleton.2 (commanded text rfl)⟩

/-- A session in a detected shell starts the tool if the system has forms for the tool and for the
packages, and is over before that otherwise. -/
theorem run_ends (forms : h.Forms) (packages : Text) {settings : List HookSetting} (config : Config)
    (hooked : ∀ p, ShellProfile.detect? h.environ settings = some p → p.planHook ≠ none) :
    let profile := ShellProfile.detect? h.environ settings
    let ran := run h packages profile config h.environ
    (h.nameFault? config.tool = none ∧ h.nameFault? packages = none ∧
      ∃ before command, Launching h profile config.promptMark before command ∧
        ran = ⟨before ++ [.started ⟨argv packages h.environ.sessionEntries command config,
          Environ.ofEntries h.environ.sessionEntries⟩], outcome h config⟩) ∨
    (∃ fault, (h.nameFault? config.tool = some fault ∨ h.nameFault? packages = some fault) ∧
      ran.invocations = [] ∧ ran.value = .error (.unnameable fault)) := by
  intro profile ran
  have going := run_going h packages profile config h.environ hooked
  change Going h packages profile config h.environ ran at going
  generalize ran = r at going
  cases going with
  | unnamed p found needed fault nameless =>
    have path := (ShellProfile.detect?_eq (Option.filter_eq_some_iff.1 found).1).2.2
    rw [path, forms.takes _ (ShellProfile.passable_startupPathOf forms.values p.kind)] at nameless
    cases nameless
  | @launched before command way ending starting =>
    have between := passable_options h.environ.sessionEntries (way.passable forms)
    rw [starting]
    rcases start_cases h config ⟨argv packages h.environ.sessionEntries command config,
      Environ.ofEntries h.environ.sessionEntries⟩ with
      ⟨named, started⟩ | ⟨name, member, fault, nameless, ended⟩
    · rw [argv_eq, List.cons_append, List.forall_mem_cons, List.forall_mem_append,
        List.forall_mem_singleton] at named
      rw [started]
      exact .inl ⟨named.1, named.2.2, before, command, way, rfl⟩
    · rw [ended]
      refine .inr ⟨fault, ?_, ?_, rfl⟩
      · rw [argv_eq, List.cons_append, List.mem_cons, List.mem_append, List.mem_singleton] at member
        rcases member with rfl | option | rfl
        · exact .inl nameless
        · cases (forms.takes name (between name option)).symm.trans nameless
        · exact .inr nameless
      · unfold Traced.invocations
        rw [List.append_nil, way.invocations]

end Session

end SandboxShell

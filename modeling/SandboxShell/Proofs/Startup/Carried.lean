import SandboxShell.Proofs.Startup.Writing
import SandboxShell.Proofs.Path.Normal
import SandboxShell.Proofs.Text.Trim
import SandboxShell.Proofs.Utf8.LineEnd

/-!
What a session's startup file carries over. Between the markers of the first section stand the bytes
of the user's own startup file, whether they are UTF-8 or not, with line ends unified and the blanks
at both ends taken off; the sections that follow are written from text. A file with nothing in it
and one that cannot be read both leave the first section out.
-/

namespace SandboxShell

open Utf8

namespace Text

theorem mem_unifyNewlines {t : Text} {s : Symbol} (member : s ∈ t.unifyNewlines) :
    s = .char '\n' ∨ s ∈ t := by
  fun_induction unifyNewlines t with
  | case1 => cases member
  | case2 rest ih =>
    rcases List.mem_cons.1 member with feed | later
    · exact .inl feed
    · exact (ih later).imp_right fun inside =>
        List.mem_cons_of_mem _ (List.mem_cons_of_mem _ inside)
  | case3 rest _ ih =>
    rcases List.mem_cons.1 member with feed | later
    · exact .inl feed
    · exact (ih later).imp_right (List.mem_cons_of_mem _)
  | case4 x rest _ _ ih =>
    rcases List.mem_cons.1 member with same | later
    · exact .inr (same ▸ List.mem_cons_self)
    · exact (ih later).imp_right (List.mem_cons_of_mem _)

def Writable (t : Text) : Prop := ∀ s ∈ t, isWritable s = true

theorem writable_append_iff {t u : Text} : Writable (t ++ u) ↔ t.Writable ∧ u.Writable :=
  List.forall_mem_append

theorem Plain.writable {t : Text} (plain : t.Plain) : t.Writable := by
  intro s member
  cases s with
  | char c => rfl
  | lone n => cases plain _ member

theorem writable_ofString (s : String) : (ofString s).Writable := by
  intro x member
  obtain ⟨c, -, rfl⟩ := List.mem_map.1 member
  rfl

theorem writable_join_iff {separator : Text} (between : separator.Writable) (ts : List Text) :
    (join separator ts).Writable ↔ ∀ t ∈ ts, t.Writable := by
  induction ts with
  | nil => simp [join, Writable]
  | cons t rest ih =>
    by_cases alone : rest = []
    · subst alone
      simp [join]
    · rw [join_cons separator t alone, writable_append_iff, writable_append_iff, ih,
        List.forall_mem_cons]
      simp only [between, and_true]

/-- Blanks are characters, so that trimming takes away nothing that cannot be written. -/
theorem writable_trim_iff {t : Text} : t.trim.Writable ↔ t.Writable := by
  obtain ⟨lead, trail, leading, trailing, split⟩ := t.exists_blanks_around
  have before := (plain_of_blanks leading).writable
  have after := (plain_of_blanks trailing).writable
  conv_rhs => rw [split, writable_append_iff, writable_append_iff]
  simp only [before, after, true_and, and_true]

end Text

theorem written_eq_nil {t : Text} (writable : t.Writable) : written t = [] ↔ t = [] := by
  constructor
  · intro empty
    cases t with
    | nil => rfl
    | cons s t =>
      have single := writable s List.mem_cons_self
      have front : (symbolBytes? s).getD [] = [] := (List.append_eq_nil_iff.1 empty).1
      cases s with
      | char c =>
        obtain ⟨first, more, sequence, -⟩ := encodeChar_eq_cons c
        rw [symbolBytes?, Option.getD_some, sequence] at front
        cases front
      | lone n =>
        unfold isWritable at single
        obtain ⟨bytes, found⟩ := Option.isSome_iff_exists.1 single
        rw [found] at front
        change (if 0x480 ≤ n.val ∧ n.val < 0x500 then some [_] else none) = some bytes at found
        split_ifs at found
        obtain rfl := Option.some.inj found
        cases front
  · rintro rfl
    rfl

namespace StartupFile

def postInit (mark : Text) : Section :=
  ⟨"boxsh Post-init Hook", Text.join "\n" (postInitLines mark)⟩

def sectionBytes (title body : Bytes) : Bytes :=
  written "# Begin " ++ title ++ written "\n\n" ++ body ++ written "\n\n# End " ++ title ++
    written "\n"

theorem written_section (s : Section) :
    written s.text = sectionBytes (written s.title) (written s.body) := by
  simp only [Section.text, sectionBytes, written_append]

theorem text_eq (f : StartupFile) :
    f.text =
      (if f.ownText = [] then [] else Section.text ⟨f.ownPath, f.ownText⟩ ++ Text.ofString "\n") ++
      (postInit f.promptMark).text ++
      (if f.planHook = [] then []
        else Text.ofString "\n" ++ Section.text ⟨"Plan Init Hook", f.planHook⟩) ++
      (if f.userHook = [] then []
        else Text.ofString "\n" ++ Section.text ⟨"User Init Hook", f.userHook⟩) := by
  unfold text sections optional
  split_ifs <;> simp [Text.join, postInit]

theorem writable_section_iff {title body : Text} :
    (Section.text ⟨title, body⟩).Writable ↔ title.Writable ∧ body.Writable := by
  simp only [Section.text, Text.writable_append_iff, Text.writable_ofString]
  tauto

theorem writable_promptLine_iff {mark : Text} : (promptLine mark).Writable ↔ mark.Writable := by
  have inner : (Text.replaceChar '\'' "'\\''" (mark ++ " ")).Writable ↔ mark.Writable := by
    constructor
    · intro writable s member
      by_cases quote : s = .char '\''
      · rw [quote]
        rfl
      · have kept : s ∈ (if s = .char '\'' then Text.ofString "'\\''" else [s]) := by
          rw [if_neg quote]
          exact List.mem_singleton_self s
        exact writable s (List.mem_flatMap.2 ⟨s, List.mem_append_left _ member, kept⟩)
    · intro marked s member
      obtain ⟨x, inside, made⟩ := List.mem_flatMap.1 member
      split_ifs at made
      · exact Text.writable_ofString _ s made
      · rw [List.mem_singleton.1 made]
        exact Text.writable_append_iff.2 ⟨marked, Text.writable_ofString " "⟩ x inside
  simp only [promptLine, singleQuoted, Text.writable_append_iff, Text.writable_ofString, inner,
    true_and, and_true]

theorem writable_postInit_iff {mark : Text} : (postInit mark).text.Writable ↔ mark.Writable := by
  have fixed : ∀ line ∈ searchPathLines, line.Writable := by
    intro line member
    simp only [searchPathLines, List.mem_cons, List.not_mem_nil, or_false] at member
    rcases member with rfl | rfl | rfl <;> exact Text.writable_ofString _
  have prompt : (∀ line ∈ (if mark = [] then [] else [promptLine mark]), line.Writable) ↔
      mark.Writable := by
    by_cases unmarked : mark = []
    · simp [unmarked, Text.Writable]
    · simp only [unmarked, if_false, List.forall_mem_singleton, writable_promptLine_iff]
  unfold postInit
  rw [writable_section_iff, Text.writable_join_iff (Text.writable_ofString _), postInitLines,
    List.forall_mem_append, prompt]
  exact ⟨fun ⟨_, _, marked⟩ => marked, fun marked => ⟨Text.writable_ofString _, fixed, marked⟩⟩

theorem writable_optional_iff {title body : Text} (titled : title.Writable) :
    (∀ s ∈ optional title body, s.text.Writable) ↔ body.Writable := by
  unfold optional
  by_cases empty : body = []
  · simp [empty, Text.Writable]
  · simp only [empty, if_false, List.forall_mem_singleton, writable_section_iff, titled, true_and]

theorem writable_text_iff {f : StartupFile} (own : f.ownText.Writable) (path : f.ownPath.Writable) :
    f.text.Writable ↔ f.promptMark.Writable ∧ f.planHook.Writable ∧ f.userHook.Writable := by
  unfold text sections
  rw [Text.writable_join_iff (Text.writable_ofString _), List.forall_mem_map,
    List.forall_mem_append, List.forall_mem_append, List.forall_mem_append,
    writable_optional_iff path, writable_optional_iff (Text.writable_ofString _),
    writable_optional_iff (Text.writable_ofString _), List.forall_mem_singleton]
  have section_iff : (Section.text ⟨"boxsh Post-init Hook",
      Text.join "\n" (postInitLines f.promptMark)⟩).Writable ↔ f.promptMark.Writable :=
    writable_postInit_iff
  rw [section_iff]
  simp only [own, true_and, and_assoc]

/-- What a startup file is in bytes: `core` under the title `path`, if there is any of it, then the
section that every startup file has, then a section for each hook with a text. -/
def carriedBytes (path : Path) (core : Bytes) (mark plan user : Text) : Bytes :=
  (if core = [] then [] else sectionBytes (written path) core ++ written "\n") ++
  written (postInit mark).text ++
  (if plan = [] then []
    else written "\n" ++ sectionBytes (written "Plan Init Hook") (written plan)) ++
  (if user = [] then [] else written "\n" ++ sectionBytes (written "User Init Hook") (written user))

theorem written_text {f : StartupFile} (own : f.ownText.Writable) :
    written f.text =
      carriedBytes f.ownPath (written f.ownText) f.promptMark f.planHook f.userHook := by
  rw [text_eq, carriedBytes]
  simp only [written_append, written_eq_nil own]
  congr 2
  · congr 1
    split_ifs
    · rfl
    · rw [written_append, written_section]
  · split_ifs
    · rfl
    · rw [written_append, written_section]
  · split_ifs
    · rfl
    · rw [written_append, written_section]

end StartupFile

namespace ShellProfile

theorem writable_ownText (h : Host) (p : ShellProfile) : (p.ownText h).Writable := by
  cases found : h.read p.startupPath with
  | error fault =>
    rw [ownText_of_fault found]
    exact fun s member => nomatch member
  | ok content =>
    rw [ownText_of_read found]
    intro s member
    rcases Text.mem_unifyNewlines member with rfl | inside
    · rfl
    · exact decode_writable content s inside

theorem writable_normalize {path : Path} (writable : path.Writable) :
    (Path.normalize path).Writable := by
  intro s member
  rcases Path.mem_normalize member with rfl | rfl | inside
  · rfl
  · rfl
  · exact writable s inside

/-- Whether the startup file of a session can be written is up to its hooks and the mark: what is
read from the user's own file always can be, and nothing is hidden by trimming. -/
theorem writable_sessionText_iff (h : Host) {p : ShellProfile} {plan mark : Text}
    (path : (Path.normalize p.startupPath).Writable) :
    (p.sessionText h plan mark).Writable ↔
      mark.Writable ∧ plan.Writable ∧ p.userHook.Writable := by
  have own : (p.ownText h).trim.Writable := Text.writable_trim_iff.2 (p.writable_ownText h)
  have whole := StartupFile.writable_text_iff (f := p.startupFile (p.ownText h) plan mark) own path
  rw [sessionText, whole]
  exact and_congr_right' (and_congr Text.writable_trim_iff Text.writable_trim_iff)

theorem writable_sessionText (h : Host) {p : ShellProfile} {plan mark : Text}
    (path : p.startupPath.Plain) (planned : plan.Plain) (user : p.userHook.Plain)
    (marked : mark.Plain) : (p.sessionText h plan mark).Writable :=
  (writable_sessionText_iff h (writable_normalize path.writable)).2
    ⟨marked.writable, planned.writable, user.writable⟩

theorem written_sessionText (h : Host) (p : ShellProfile) (plan mark : Text) :
    written (p.sessionText h plan mark) = StartupFile.carriedBytes (Path.normalize p.startupPath)
      (written (p.ownText h).trim) mark plan.trim p.userHook.trim :=
  StartupFile.written_text (f := p.startupFile (p.ownText h) plan mark)
    (Text.writable_trim_iff.2 (p.writable_ownText h))

/-- The startup file of a session carries the user's own over byte for byte: what stands between its
markers is the one slice of the user's file, line ends unified, that stays when the blanks at both
ends go. -/
theorem writeStartup_carries (h : Host) (p : ShellProfile) (plan mark : Text)
    (known : p.startupPath ≠ []) (given : p.planHook = some plan) (path : p.startupPath.Plain)
    (planned : plan.Plain) (user : p.userHook.Plain) (marked : mark.Plain)
    (named : h.nameFault? p.startupPath = none) (made : h.directoryFault = none)
    (kept : h.writing (p.sessionPath h) = .kept) :
    ∃ core : Bytes,
      (∀ content, h.read p.startupPath = .ok content →
        TrimmedBytes (unifiedBytes content) core ∧
          ∀ other, TrimmedBytes (unifiedBytes content) other → other = core) ∧
      (∀ fault, h.read p.startupPath = .error fault → core = []) ∧
      (p.writeStartup h mark).value = .ok (p.sessionPath h) ∧
      (p.writeStartup h mark).files = [(p.sessionPath h, StartupFile.carriedBytes
        (Path.normalize p.startupPath) core mark plan.trim p.userHook.trim)] := by
  refine ⟨written (p.ownText h).trim, ?_, ?_, ?_⟩
  · intro content readable
    rw [ownText_of_read readable, ← decode_unifiedBytes]
    exact ⟨trimmedBytes_iff.2 rfl, fun other trimmed => trimmedBytes_iff.1 trimmed⟩
  · intro fault failed
    rw [ownText_of_fault failed]
    rfl
  · have encoded := encode_of_writable (writable_sessionText h path planned user marked)
    rw [written_sessionText] at encoded
    rw [p.writeStartup_done ⟨known, made, named, given⟩ kept encoded]
    refine ⟨rfl, ?_⟩
    simp only [Traced.files, List.filterMap_append, (p.preparation_quiet h).files]
    rfl

/-- A byte that is no UTF-8 goes over from between blanks of one, two and three bytes. -/
theorem writeStartup_carries_invalid :
    let h : Host :=
      { environ := Table.empty, nesting := 991,
        files := Table.empty.put "/h/.bashrc"
          (.bytes [0xC2, 0xA0, 0x0D, 0x0A, 0xFF, 0x0D, 0xE2, 0x80, 0x8A]) }
    let p : ShellProfile :=
      { kind := .bash, program := "/bin/bash", startupPath := "/h/.bashrc", planHook := some "make",
        userHook := " " }
    p.startupPath ≠ [] ∧ p.planHook = some ↑"make" ∧ p.startupPath.Plain ∧
      Text.Plain "make" ∧ p.userHook.Plain ∧ Text.Plain "(boxsh)" ∧
      h.nameFault? p.startupPath = none ∧ h.directoryFault = none ∧
      h.writing (p.sessionPath h) = .kept ∧
      (p.writeStartup h "(boxsh)").files =
        [(p.sessionPath h, StartupFile.carriedBytes "/h/.bashrc" [0xFF] "(boxsh)" "make" [])] := by
  intro h p
  have plain (s : String) : Text.Plain s := Text.plain_ofString s
  have named : h.nameFault? p.startupPath = none := by decide
  have kept : h.writing (p.sessionPath h) = .kept := by decide
  obtain ⟨core, carried, -, -, file⟩ := writeStartup_carries h p "make" "(boxsh)" (by decide) rfl
    (plain _) (plain _) (plain _) (plain _) named rfl kept
  have content : h.read p.startupPath =
      .ok [0xC2, 0xA0, 0x0D, 0x0A, 0xFF, 0x0D, 0xE2, 0x80, 0x8A] := by decide
  have outside (c : Char) (rest : Bytes) : String.utf8EncodeChar c ++ rest ≠ [0xFF] := by
    intro same
    have found := next?_encodeChar c rest
    rw [same, show next? [0xFF] = none by decide] at found
    cases found
  have blanks {c d : Char} (one : isBlankCode c.toNat = true) (two : isBlankCode d.toNat = true) :
      ∀ x ∈ [c, d], isBlankCode x.toNat = true :=
    List.forall_mem_cons.2 ⟨one, List.forall_mem_singleton.2 two⟩
  have trimmed : TrimmedBytes (unifiedBytes [0xC2, 0xA0, 0x0D, 0x0A, 0xFF, 0x0D, 0xE2, 0x80, 0x8A])
      [0xFF] :=
    { around := ⟨[0xC2, 0xA0, 0x0A], [0x0A, 0xE2, 0x80, 0x8A],
        ⟨['\u00A0', '\n'], blanks rfl rfl, by decide⟩, ⟨['\n', '\u200A'], blanks rfl rfl, by decide⟩,
        by decide⟩
      front := fun c _ ⟨rest, same⟩ => outside c rest same
      back := by
        rintro c _ ⟨rest, same⟩
        cases rest with
        | nil => exact outside c [] (by rw [List.append_nil]; exact same)
        | cons b rest =>
          obtain ⟨first, more, sequence, -⟩ := encodeChar_eq_cons c
          rw [sequence] at same
          simp at same }
  have core_eq := (carried _ content).2 _ trimmed
  refine ⟨by decide, rfl, plain _, plain _, plain _, plain _, named, rfl, kept, ?_⟩
  rw [file, ← core_eq]
  rfl

end ShellProfile

end SandboxShell

import SandboxShell.Proofs.Startup.Carried

/-!
Which lines of a startup file a shell runs. A shell passes over blank lines and over comments, and
that is all a section adds to its body, as long as its title is one line. The title of the user's own
section is a path, though, which the environment can give any number of lines; only the first of them
stands behind the mark of the comment.
-/

namespace SandboxShell

namespace Text

def lines (t : Text) : List Text := t.splitOn '\n'

/-- A line that a shell passes over: one of blanks alone, or a comment. -/
def isPassedOver (line : Text) : Bool :=
  line.all (fun s => s = .char ' ' ∨ s = .char '\t') || line.head? = some (.char '#')

def codeLines (t : Text) : List Text := t.lines.filter fun line => !line.isPassedOver

def laterLines (t : Text) : List Text := t.lines.tail

def laterCode (t : Text) : List Text := t.laterLines.filter fun line => !line.isPassedOver

theorem lines_join (ts : List Text) (filled : ts ≠ []) :
    lines (join "\n" ts) = ts.flatMap lines := by
  induction ts with
  | nil => exact absurd rfl filled
  | cons t rest ih =>
    by_cases alone : rest = []
    · subst alone
      exact (List.append_nil _).symm
    · rw [join_cons _ _ alone, List.flatMap_cons, ← ih alone]
      exact splitOn_append '\n' t (join "\n" rest)

theorem codeLines_join (ts : List Text) : codeLines (join "\n" ts) = ts.flatMap codeLines := by
  by_cases none : ts = []
  · subst none
    rfl
  · unfold codeLines
    rw [lines_join ts none, List.filter_flatMap]

theorem lines_append {front : Text} (unbroken : ∀ s ∈ front, (s == Symbol.char '\n') = false)
    (t : Text) : lines (front ++ t) = (front ++ (t.cut (· == .char '\n')).1) :: t.laterLines := by
  unfold lines splitOn pieces
  rw [cut_append unbroken]
  rfl

theorem laterLines_of_unbroken {t : Text} (unbroken : .char '\n' ∉ t) : t.laterLines = [] := by
  have whole : lines t = [t] := pieces_of_unmarked fun s member =>
    beq_eq_false_iff_ne.2 fun same => unbroken (same ▸ member)
  rw [laterLines, whole]
  rfl

end Text

namespace Section

def beginning : Text := "# Begin "

def ending : Text := "# End "

def parts (s : Section) : List Text :=
  [beginning ++ s.title, [], s.body, [], ending ++ s.title, []]

theorem text_eq_join (s : Section) : s.text = Text.join "\n" s.parts := by
  simp [text, parts, beginning, ending, Text.join, Text.ofString]

/-- Behind the mark of a comment only the first line of a title is part of the comment. -/
theorem lines_titled (front : Text) (unbroken : ∀ s ∈ front, (s == Symbol.char '\n') = false)
    (comment : front.head? = some (.char '#')) (title : Text) :
    ∃ first : Text, first.isPassedOver = true ∧
      Text.lines (front ++ title) = first :: title.laterLines := by
  refine ⟨_, ?_, Text.lines_append unbroken title⟩
  unfold Text.isPassedOver
  rw [List.head?_append, comment]
  simp

theorem lines_text (s : Section) : ∃ first last : Text,
    first.isPassedOver = true ∧ last.isPassedOver = true ∧
      s.text.lines = first :: s.title.laterLines ++ [] :: s.body.lines ++
        [] :: last :: s.title.laterLines ++ [[]] := by
  obtain ⟨first, passed, front⟩ := lines_titled beginning (by decide) rfl s.title
  obtain ⟨last, passed', back⟩ := lines_titled ending (by decide) rfl s.title
  have empty : Text.lines [] = [[]] := rfl
  refine ⟨first, last, passed, passed', ?_⟩
  rw [text_eq_join, Text.lines_join s.parts (List.cons_ne_nil _ _)]
  simp only [parts, List.flatMap_cons, List.flatMap_nil, front, back, empty, List.append_assoc,
    List.cons_append, List.nil_append]

/-- The lines of a section that a shell runs: those of its body, and around them the lines that its
title has too many. -/
theorem codeLines_text (s : Section) :
    s.text.codeLines = s.title.laterCode ++ s.body.codeLines ++ s.title.laterCode := by
  obtain ⟨first, last, passed, passed', lines⟩ := s.lines_text
  have empty : Text.isPassedOver [] = true := rfl
  unfold Text.codeLines Text.laterCode
  rw [lines]
  simp [passed, passed', empty]

theorem forall_lines_text_iff {fine : Text → Prop}
    (passed : ∀ line : Text, line.isPassedOver = true → fine line) (s : Section)
    (inside : ∀ line ∈ s.body.lines, fine line) :
    (∀ line ∈ s.text.lines, fine line) ↔ ∀ line ∈ s.title.laterLines, fine line := by
  obtain ⟨first, last, comment, comment', lines⟩ := s.lines_text
  have empty : fine [] := passed [] rfl
  rw [lines]
  simp only [List.forall_mem_append, List.forall_mem_cons]
  constructor
  · rintro ⟨⟨⟨⟨-, later⟩, -⟩, -⟩, -⟩
    exact later
  · intro later
    exact ⟨⟨⟨⟨passed first comment, later⟩, empty, inside⟩, empty, passed last comment', later⟩, empty,
      fun _ member => nomatch member⟩

end Section

namespace StartupFile

def bodies (f : StartupFile) : List Text :=
  [f.ownText, Text.join "\n" (postInitLines f.promptMark), f.planHook, f.userHook]

theorem codeLines_optional (title body : Text) (single : title.laterLines = []) :
    (optional title body).flatMap (fun s => s.text.codeLines) = body.codeLines := by
  have none : title.laterCode = [] := by rw [Text.laterCode, single]; rfl
  unfold optional
  by_cases empty : body = []
  · rw [if_pos empty, empty]
    rfl
  · rw [if_neg empty, List.flatMap_singleton, Section.codeLines_text, none]
    exact List.append_nil _

theorem codeLines_text (f : StartupFile) :
    f.text.codeLines =
      (if f.ownText = [] then []
        else f.ownPath.laterCode ++ f.ownText.codeLines ++ f.ownPath.laterCode) ++
      (Text.codeLines (Text.join "\n" (postInitLines f.promptMark)) ++ f.planHook.codeLines ++
        f.userHook.codeLines) := by
  have postInit : (Section.text ⟨"boxsh Post-init Hook",
      Text.join "\n" (postInitLines f.promptMark)⟩).codeLines =
      Text.codeLines (Text.join "\n" (postInitLines f.promptMark)) := by
    rw [Section.codeLines_text]
    exact List.append_nil _
  unfold text
  rw [Text.codeLines_join, List.flatMap_map, sections, List.flatMap_append, List.flatMap_append,
    List.flatMap_append, codeLines_optional "Plan Init Hook" f.planHook (by decide),
    codeLines_optional "User Init Hook" f.userHook (by decide), List.flatMap_singleton, postInit]
  simp only [List.append_assoc]
  congr 1
  unfold optional
  split
  · rfl
  · rw [List.flatMap_singleton, Section.codeLines_text, List.append_assoc]

theorem codeLines_text_eq_iff (f : StartupFile) :
    f.text.codeLines = f.bodies.flatMap Text.codeLines ↔
      f.ownText = [] ∨ ∀ line ∈ f.ownPath.laterLines, line.isPassedOver = true := by
  have harmless : f.ownPath.laterCode = [] ↔
      ∀ line ∈ f.ownPath.laterLines, line.isPassedOver = true := by
    simp [Text.laterCode]
  have bodies : f.bodies.flatMap Text.codeLines = f.ownText.codeLines ++
      (Text.codeLines (Text.join "\n" (postInitLines f.promptMark)) ++ f.planHook.codeLines ++
        f.userHook.codeLines) := by
    simp [StartupFile.bodies]
  rw [codeLines_text, bodies, List.append_cancel_right_eq, ← harmless]
  by_cases empty : f.ownText = []
  · rw [if_pos empty, empty]
    exact iff_of_true rfl (.inl rfl)
  · rw [if_neg empty, or_iff_right empty]
    constructor
    · -- lines put around the others make the list longer
      intro same
      have length := congrArg List.length same
      simp only [List.length_append] at length
      exact List.eq_nil_of_length_eq_zero (by omega)
    · intro none
      rw [none]
      exact List.append_nil _

theorem lines_text_iff (f : StartupFile) {fine : Text → Prop}
    (passed : ∀ line : Text, line.isPassedOver = true → fine line)
    (inside : ∀ body ∈ f.bodies, ∀ line ∈ body.lines, fine line) :
    (∀ line ∈ f.text.lines, fine line) ↔
      f.ownText = [] ∨ ∀ line ∈ f.ownPath.laterLines, fine line := by
  have filled : f.sections.map Section.text ≠ [] := by simp [sections]
  have fixed (title body : Text) (single : title.laterLines = []) (listed : body ∈ f.bodies) :
      ∀ line ∈ (Section.text ⟨title, body⟩).lines, fine line := by
    rw [Section.forall_lines_text_iff passed _ (inside _ listed), single]
    exact fun _ member => nomatch member
  have first : (∀ s ∈ optional f.ownPath f.ownText, ∀ line ∈ s.text.lines, fine line) ↔
      f.ownText = [] ∨ ∀ line ∈ f.ownPath.laterLines, fine line := by
    unfold optional
    by_cases empty : f.ownText = []
    · rw [if_pos empty]
      exact iff_of_true (fun _ member => nomatch member) (.inl empty)
    · rw [if_neg empty, or_iff_right empty, List.forall_mem_singleton]
      exact Section.forall_lines_text_iff passed _ (inside _ (by simp [bodies]))
  have later (title body : Text) (single : title.laterLines = []) (listed : body ∈ f.bodies) :
      ∀ s ∈ optional title body, ∀ line ∈ s.text.lines, fine line := by
    intro s member
    unfold optional at member
    split at member
    · cases member
    · rw [List.mem_singleton.1 member]
      exact fixed title body single listed
  have postInit := fixed "boxsh Post-init Hook" (Text.join "\n" (postInitLines f.promptMark))
    (by decide) (by simp [bodies])
  have plan := later "Plan Init Hook" f.planHook (by decide) (by simp [bodies])
  have user := later "User Init Hook" f.userHook (by decide) (by simp [bodies])
  rw [text, Text.lines_join _ filled, List.flatMap_map, List.forall_mem_flatMap, sections,
    List.forall_mem_append, List.forall_mem_append, List.forall_mem_append,
    List.forall_mem_singleton, first]
  exact ⟨fun each => each.1.1.1, fun own => ⟨⟨⟨own, postInit⟩, plan⟩, user⟩⟩

end StartupFile

namespace ShellProfile

/-- The lines of a written startup file that a shell does not pass over are those of the user's own
text, of the fixed section and of the hooks, just when there is no text of the user's own or all
lines of the path of that file but the first are passed over; and the same holds line by line. -/
theorem writeStartup_inert_iff (h : Host) (p : ShellProfile) {plan mark : Text} {path : Path}
    (given : p.planHook = some plan) (answer : (p.writeStartup h mark).value = .ok path) :
    let own := (p.ownText h).trim
    let bodies : List Text := [own, Text.join "\n" (StartupFile.postInitLines mark), plan.trim,
      p.userHook.trim]
    let text := p.sessionText h plan mark
    let later := (Path.normalize p.startupPath).laterLines
    (p.writeStartup h mark).files = [(path, Utf8.written text)] ∧
    (text.codeLines = bodies.flatMap Text.codeLines ↔
      own = [] ∨ ∀ line ∈ later, line.isPassedOver = true) ∧
    ((∀ line ∈ text.lines, line.isPassedOver = true ∨ ∃ body ∈ bodies, line ∈ body.lines) ↔
      own = [] ∨ ∀ line ∈ later, line.isPassedOver = true ∨ ∃ body ∈ bodies, line ∈ body.lines) ∧
    (.char '\n' ∉ p.startupPath → later = []) := by
  intro own bodies text later
  let file := p.startupFile (p.ownText h) plan mark
  obtain ⟨-, -, hook, content, ready, encoded, events⟩ := writeStartup_ok answer
  obtain rfl := Option.some.inj (given.symm.trans ready.given)
  refine ⟨?_, file.codeLines_text_eq_iff, ?_, ?_⟩
  · have written : content = Utf8.written text := (Utf8.encode_eq_ok_iff.1 encoded).2
    rw [Traced.files, events, List.filterMap_append, (p.preparation_quiet h).files, written]
    rfl
  · exact file.lines_text_iff (fun _ => .inl) fun body listed line inside => .inr ⟨body, listed, inside⟩
  · intro unbroken
    refine Text.laterLines_of_unbroken fun newline => ?_
    rcases Path.mem_normalize newline with slash | dot | inside
    · cases slash
    · cases dot
    · exact unbroken inside

/-- The second line of the path is a comment of its own, and the user's hook has nothing in it. -/
theorem writeStartup_inert_commented :
    let h : Host :=
      { environ := Table.empty, nesting := 991,
        files := Table.empty.put "/h\n#u/.bashrc" (.bytes [0x0A, 0x63, 0x64, 0x0D, 0x23]) }
    let p : ShellProfile :=
      { kind := .bash, program := "/bin/bash", startupPath := "/h\n#u/.bashrc",
        planHook := some "make", userHook := " " }
    let mark : Text := "it's"
    p.planHook = some (Text.ofString "make") ∧
      (p.writeStartup h mark).value = .ok "/tmp/boxsh0001/.bashrc" ∧
      (p.sessionText h "make" mark).codeLines =
        ["cd", "if [ -n \"$PARENT_PATH\" ]; then", "  export PATH=\"$PATH:$PARENT_PATH\"", "fi",
          "PS1='it'\\''s '\"$PS1\"", "make"] := by
  intro h p mark
  have answer : (p.writeStartup h mark).value = .ok "/tmp/boxsh0001/.bashrc" := by decide +kernel
  obtain ⟨-, code, -, -⟩ := writeStartup_inert_iff h p rfl answer
  refine ⟨rfl, answer, ?_⟩
  rw [code.2 (.inr (by decide +kernel))]
  decide +kernel

/-- The home directory has a second line, and what stands there is run before the user's own text. -/
theorem writeStartup_runs_path :
    let environ : Environ := Table.ofList [("SHELL", "/bin/bash"), ("HOME", "/h\nid #")]
    let h : Host :=
      { environ, nesting := 991,
        files := Table.empty.put "/h\nid #/.bashrc" (.bytes [0x63, 0x64]) }
    let p : ShellProfile :=
      { kind := .bash, program := "/bin/bash", startupPath := "/h\nid #/.bashrc" }
    let bodies : List Text :=
      [(p.ownText h).trim, Text.join "\n" (StartupFile.postInitLines []), [], []]
    detect? environ [] = some p ∧
      (p.writeStartup h []).value = .ok "/tmp/boxsh0001/.bashrc" ∧
      (p.sessionText h [] []).codeLines =
        ["id #/.bashrc", "cd", "id #/.bashrc", "if [ -n \"$PARENT_PATH\" ]; then",
          "  export PATH=\"$PATH:$PARENT_PATH\"", "fi"] ∧
      (p.sessionText h [] []).codeLines ≠ bodies.flatMap Text.codeLines ∧
      ∃ line ∈ (p.sessionText h [] []).lines, line.isPassedOver = false ∧
        ∀ body ∈ bodies, line ∉ body.lines := by
  decide +kernel

end ShellProfile

end SandboxShell

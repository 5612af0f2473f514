import SandboxShell.Shell.Command
import SandboxShell.Shell.Word
import Mathlib.Data.List.Basic
import Mathlib.Data.List.Induction

/-!
How a shell reads the words of a command. A text can stand in a command bare or between double
quotes; for either there is a rule that says when it is read as itself, symbol for symbol. A command
whose words all keep to their rule is read as these words, and as nothing else.
-/

namespace SandboxShell

namespace Text

def asWord (t : Text) : ShellWord := t.map .literal

end Text

namespace WordReader

variable {r : WordReader} {t : Text}

def read (r : WordReader) (t : Text) : Option WordReader := t.foldlM step r

theorem read_nil (r : WordReader) : r.read [] = some r := rfl

theorem read_cons (r : WordReader) (s : Symbol) (t : Text) :
    r.read (s :: t) = (r.step s).bind (·.read t) := rfl

theorem read_append (r : WordReader) (t u : Text) :
    r.read (t ++ u) = (r.read t).bind (·.read u) := List.foldlM_append

theorem shellWords?_eq (t : Text) :
    t.shellWords? = (({} : WordReader).read t).bind WordReader.finish := rfl

def addText (r : WordReader) (t : Text) : WordReader :=
  { r with current := some (t.asWord.reverse ++ r.current.getD []) }

theorem add_addText (r : WordReader) (s : Symbol) (t : Text) :
    (r.add (.literal s)).addText t = r.addText (s :: t) := by
  simp [addText, add, Text.asWord]

theorem addText_nil {parts : ShellWord} (inside : r.current = some parts) : r.addText [] = r := by
  cases r
  simp_all [addText, Text.asWord]

def breaking : Text := " \t\n\\'\""

def IsPlain (s : Symbol) : Prop := s ∉ breaking ∧ s ∉ special

instance (s : Symbol) : Decidable (IsPlain s) := inferInstanceAs (Decidable (_ ∧ _))

/-- A text that is read as itself where a word begins and ends with it. -/
structure StandsBare (t : Text) : Prop where
  nonempty : t ≠ []
  plain : ∀ s ∈ t, IsPlain s
  first : ∀ s ∈ t.head?, s ∉ specialFirst

instance (t : Text) : Decidable (StandsBare t) :=
  decidable_of_iff (t ≠ [] ∧ (∀ s ∈ t, IsPlain s) ∧ ∀ s ∈ t.head?, s ∉ specialFirst)
    ⟨fun ⟨nonempty, plain, first⟩ => ⟨nonempty, plain, first⟩,
      fun ⟨nonempty, plain, first⟩ => ⟨nonempty, plain, first⟩⟩

/-- A text that is read as itself between double quotes: no quote, dollar sign or backquote is in
it, and each backslash stands before a symbol that it leaves alone. -/
def Quotable : Text → Prop
  | [] => True
  | s :: rest =>
    (s ≠ .char '"' ∧ s ≠ .char '$' ∧ s ≠ .char '`') ∧
      (s = .char '\\' → ∃ x, rest.head? = some x ∧ x ∉ escapable ∧ x ≠ .char '\n') ∧ Quotable rest

theorem mem_breaking_iff (s : Symbol) :
    s ∈ breaking ↔ (s = .char ' ' ∨ s = .char '\t' ∨ s = .char '\n') ∨
      s = .char '\\' ∨ s = .char '\'' ∨ s = .char '"' := by
  have spelled : breaking = [.char ' ', .char '\t', .char '\n', .char '\\', .char '\'',
    .char '"'] := by decide
  simp only [spelled, List.mem_cons, List.not_mem_nil, or_false, or_assoc]

theorem mem_escapable_iff (s : Symbol) :
    s ∈ escapable ↔ s = .char '\\' ∨ s = .char '"' ∨ s = .char '$' ∨ s = .char '`' := by
  have spelled : escapable = [.char '$', .char '`', .char '"', .char '\\'] := by decide
  simp only [spelled, List.mem_cons, List.not_mem_nil, or_false]
  tauto

theorem quotable_append_iff {u : Text} (plain : ∀ s ∈ u, s ∉ escapable) :
    Quotable (u ++ t) ↔ Quotable t := by
  induction u with
  | nil => rfl
  | cons s rest ih =>
    obtain ⟨here, there⟩ := List.forall_mem_cons.1 plain
    rw [mem_escapable_iff] at here
    obtain ⟨noBackslash, ordinary⟩ := not_or.1 here
    rw [← ih there]
    constructor
    · exact fun quotable => quotable.2.2
    · intro quotable
      exact ⟨by simpa only [not_or] using ordinary, fun same => absurd same noBackslash, quotable⟩

theorem quotable_of_plain (plain : ∀ s ∈ t, s ∉ escapable) : Quotable t := by
  have whole := quotable_append_iff (t := []) plain
  rw [List.append_nil] at whole
  exact whole.2 trivial

theorem StandsBare.quotable (stands : StandsBare t) : Quotable t := by
  apply quotable_of_plain
  intro s member escapes
  have inside : escapable ⊆ breaking ++ special := by decide
  rcases List.mem_append.1 (inside escapes) with breaks | means
  · exact (stands.plain s member).1 breaks
  · exact (stands.plain s member).2 means

theorem IsPlain.ne {s : Symbol} (plain : IsPlain s) {c : Char} (breaks : .char c ∈ breaking) :
    s ≠ .char c := fun same => plain.1 (same ▸ breaks)

theorem stepBare_plain {s : Symbol} (plain : IsPlain s)
    (first : r.current = none → s ∉ specialFirst) :
    r.stepBare s = some (r.add (.literal s)) := by
  have unbroken : ¬(s = .char ' ' ∨ s = .char '\t' ∨ s = .char '\n') := by
    rintro (same | same | same)
    · exact plain.ne (by decide) same
    · exact plain.ne (by decide) same
    · exact plain.ne (by decide) same
  have ordinary : ¬(s ∈ special ∨ r.current = none ∧ s ∈ specialFirst) := by
    rintro (means | ⟨between, means⟩)
    · exact plain.2 means
    · exact first between means
  unfold stepBare
  rw [if_neg unbroken, if_neg (plain.ne (by decide)), if_neg (plain.ne (by decide)),
    if_neg (plain.ne (by decide)), if_neg ordinary]

theorem step_bare (bare : r.quoting = .bare) (s : Symbol) : r.step s = r.stepBare s := by
  unfold step
  rw [bare]

theorem step_double (double : r.quoting = .double) (s : Symbol) : r.step s = r.stepDouble s := by
  unfold step
  rw [double]

theorem read_plain {parts : ShellWord} (bare : r.quoting = .bare) (inside : r.current = some parts)
    (plain : ∀ s ∈ t, IsPlain s) : r.read t = some (r.addText t) := by
  induction t generalizing r parts with
  | nil => rw [addText_nil inside, read_nil]
  | cons s rest ih =>
    obtain ⟨here, there⟩ := List.forall_mem_cons.1 plain
    have first : r.current = none → s ∉ specialFirst := fun between => by simp [inside] at between
    rw [read_cons, step_bare bare, stepBare_plain here first, Option.bind_some,
      ih (r := r.add (.literal s)) bare rfl there, add_addText]

theorem read_bare (bare : r.quoting = .bare) (stands : StandsBare t) :
    r.read t = some (r.addText t) := by
  cases t with
  | nil => exact absurd rfl stands.nonempty
  | cons s rest =>
    obtain ⟨here, there⟩ := List.forall_mem_cons.1 stands.plain
    rw [read_cons, step_bare bare, stepBare_plain here (fun _ => stands.first s rfl),
      Option.bind_some, read_plain (r := r.add (.literal s)) bare rfl there, add_addText]

theorem stepDouble_literal {s : Symbol} (usual : s ∉ escapable) :
    r.stepDouble s = some (r.add (.literal s)) := by
  have other {c : Char} (listed : Symbol.char c ∈ escapable) : s ≠ .char c :=
    fun same => usual (same ▸ listed)
  unfold stepDouble
  rw [if_neg (other (by decide)), if_neg (other (by decide)), if_neg (other (by decide)),
    if_neg (other (by decide))]

theorem not_mem_escapable {s : Symbol} (usual : s ≠ .char '"' ∧ s ≠ .char '$' ∧ s ≠ .char '`')
    (other : s ≠ .char '\\') : s ∉ escapable := by
  rw [mem_escapable_iff]
  tauto

theorem read_backslash {x : Symbol} (double : r.quoting = .double) (usual : x ∉ escapable)
    (sameLine : x ≠ .char '\n') :
    r.read [.char '\\', x] = some ((r.add (.literal (.char '\\'))).add (.literal x)) := by
  have pending : r.step (.char '\\') = some { r with quoting := .doubleEscaped } := by
    rw [step_double double]
    rfl
  have kept : ({ r with quoting := .doubleEscaped } : WordReader).step x =
      some ((r.add (.literal (.char '\\'))).add (.literal x)) := by
    unfold step
    dsimp only
    rw [if_neg sameLine, if_neg usual, ← double]
  rw [read_cons, pending, Option.bind_some, read_cons, kept]
  rfl

theorem read_quotable {parts : ShellWord} (double : r.quoting = .double)
    (inside : r.current = some parts) (quotable : Quotable t) : r.read t = some (r.addText t) := by
  -- a backslash is read together with the symbol after it, so the induction takes two steps
  induction t using List.twoStepInduction generalizing r parts with
  | nil => rw [addText_nil inside, read_nil]
  | singleton s =>
    obtain ⟨usual, escapes, -⟩ := quotable
    have other : s ≠ .char '\\' := fun same => by simpa using escapes same
    rw [read_cons, step_double double, stepDouble_literal (not_mem_escapable usual other)]
    rfl
  | cons_cons s x rest ihRest ih =>
    obtain ⟨usual, escapes, later⟩ := quotable
    by_cases same : s = .char '\\'
    · subst same
      obtain ⟨y, first, plain, sameLine⟩ := escapes rfl
      obtain rfl := Option.some.inj first
      have split : .char '\\' :: x :: rest = [.char '\\', x] ++ rest := rfl
      rw [split, read_append, read_backslash double plain sameLine, Option.bind_some,
        ihRest (r := (r.add (.literal (.char '\\'))).add (.literal x)) double rfl later.2.2,
        add_addText, add_addText, split]
    · rw [read_cons, step_double double, stepDouble_literal (not_mem_escapable usual same),
        Option.bind_some, ih x (r := r.add (.literal s)) double rfl later, add_addText]

end WordReader

namespace CommandWord

def content : CommandWord → Text
  | .bare t => t
  | .quoted t => t

def Sound : CommandWord → Prop
  | .bare t => WordReader.StandsBare t
  | .quoted t => WordReader.Quotable t

theorem read_text {r : WordReader} {w : CommandWord} (bare : r.quoting = .bare)
    (between : r.current = none) (sound : w.Sound) :
    r.read w.text = some { r with current := some w.content.asWord.reverse } := by
  cases w with
  | bare t =>
    rw [text, WordReader.read_bare bare sound]
    simp [WordReader.addText, between, content]
  | quoted t =>
    have opened : r.read "\"" = some (r.enter .double) := by
      change (r.step (.char '"')).bind _ = _
      rw [WordReader.step_bare bare]
      rfl
    have closed (parts : ShellWord) :
        ({ r with quoting := .double, current := some parts } : WordReader).read "\"" =
          some { r with current := some parts } := by
      rw [bare]
      rfl
    have filled := WordReader.read_quotable (r := r.enter .double) rfl rfl sound
    have word : (r.enter .double).addText t =
        { r with quoting := .double, current := some t.asWord.reverse } := by
      simp [WordReader.addText, WordReader.enter, between]
    rw [text, WordReader.read_append, WordReader.read_append, opened, Option.bind_some, filled,
      Option.bind_some, word, closed]
    rfl

theorem read_text_blank {r : WordReader} {w : CommandWord} (bare : r.quoting = .bare)
    (between : r.current = none) (sound : w.Sound) (rest : Text) :
    r.read (w.text ++ Text.ofString " " ++ rest) =
      ({ r with done := w.content.asWord :: r.done } : WordReader).read rest := by
  have ended : ({ r with current := some w.content.asWord.reverse } : WordReader).step (.char ' ') =
      some { r with done := w.content.asWord :: r.done } := by
    rw [WordReader.step_bare (r := { r with current := some w.content.asWord.reverse }) bare]
    simp [WordReader.stepBare, WordReader.endWord, between]
  rw [List.append_assoc, WordReader.read_append, read_text bare between sound, Option.bind_some]
  change (WordReader.step _ (.char ' ')).bind _ = _
  rw [ended, Option.bind_some]
  rfl

/-- A command of sound words is read as these words. -/
theorem read_join {r : WordReader} {words : List CommandWord} (bare : r.quoting = .bare)
    (between : r.current = none) (sound : ∀ w ∈ words, w.Sound) :
    (r.read (Text.join " " (words.map text))).bind WordReader.finish =
      some (r.done.reverse ++ words.map (·.content.asWord)) := by
  induction words generalizing r with
  | nil => simp [Text.join, WordReader.read_nil, WordReader.finish, WordReader.endWord, bare, between]
  | cons w rest ih =>
    obtain ⟨here, there⟩ := List.forall_mem_cons.1 sound
    by_cases alone : rest = []
    · subst alone
      simp [Text.join, read_text bare between here, WordReader.finish, WordReader.endWord, bare]
    · have more : rest.map text ≠ [] := by simpa using alone
      rw [List.map_cons, Text.join_cons _ _ more, read_text_blank bare between here,
        ih (r := { r with done := w.content.asWord :: r.done }) bare between there]
      simp

end CommandWord

end SandboxShell

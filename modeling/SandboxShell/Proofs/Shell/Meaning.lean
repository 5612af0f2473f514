import SandboxShell.Proofs.Shell.Lossless

/-!
When a command means what it was written for. Words between blanks are read as their contents just
when each of them keeps to the rule of its place: a bare word to that of plain text, a quoted one to
that of quotations. That the rules are needed comes from counting: such a reading loses nothing, so
that there is no other way for a symbol to come into its word.
-/

namespace SandboxShell

namespace CommandWord

open WordReader

variable {r final : WordReader}

theorem gains_append (t u : Text) : gains (t ++ u) = gains t + gains u := by
  simp [gains]

theorem gains_text (w : CommandWord) : gains w.text = gains w.content := by
  cases w with
  | bare t => rfl
  | quoted t =>
    have quote : gains "\"" = 0 := by decide
    simp only [text, content, gains_append, quote, Nat.zero_add, Nat.add_zero]

theorem countP_asWord (t : Text) : t.asWord.countP counts = gains t := by
  induction t with
  | nil => rfl
  | cons s rest ih =>
    have split : Text.asWord (s :: rest) = .literal s :: Text.asWord rest := rfl
    rw [split, List.countP_cons, ih, gains_cons, Nat.add_comm]
    unfold gain counts
    by_cases quote : s = .char '"' <;> simp [quote]

theorem countP_flatten_asWord (words : List CommandWord) :
    (words.map (·.content.asWord)).flatten.countP counts = gains (words.flatMap content) := by
  induction words with
  | nil => rfl
  | cons w rest ih =>
    rw [List.map_cons, List.flatten_cons, List.countP_append, ih, countP_asWord, List.flatMap_cons,
      gains_append]

/-- What the words of a command are to bring: their parts that count, and their ends. -/
def worth (words : List CommandWord) : Nat :=
  gains (words.flatMap content) + words.length

theorem gains_join {words : List CommandWord} (some_word : words ≠ []) :
    gains (Text.join " " (words.map text)) + 1 = worth words := by
  induction words with
  | nil => exact absurd rfl some_word
  | cons w rest ih =>
    by_cases alone : rest = []
    · subst alone
      simp [Text.join, worth, gains_text]
    · have more : rest.map text ≠ [] := by simpa using alone
      have blank : gains " " = 1 := by decide
      have later := ih alone
      rw [List.map_cons, Text.join_cons _ _ more, gains_append, gains_append, blank, gains_text]
      simp only [worth, List.flatMap_cons, gains_append, List.length_cons] at later ⊢
      omega

/-- A command that is read as its own words loses nothing. -/
theorem fills_of_shellWords? {words : List CommandWord} (some_word : words ≠ [])
    (read : (Text.join " " (words.map text)).shellWords? =
      some (words.map (·.content.asWord))) :
    ∃ final, Fills {} (Text.join " " (words.map text)) final ∧
      final.finish = some (words.map (·.content.asWord)) := by
  rw [shellWords?_eq] at read
  obtain ⟨final, steps, finished⟩ := Option.bind_eq_some_iff.1 read
  refine ⟨final, ⟨steps, ?_⟩, finished⟩
  obtain ⟨closed, ended⟩ := finish_eq_some_iff.1 finished
  have bound := weight_read steps
  have empty : ({} : WordReader).weight = 0 := rfl
  have total : final.endWord.weight = worth words := by
    have done : final.endWord.done = (words.map (·.content.asWord)).reverse := by
      rw [ended, List.reverse_reverse]
    have between : final.endWord.current = none := by
      unfold endWord
      split
      · assumption
      · rfl
    have open_quotes : final.endWord.quoting = .bare := by
      unfold endWord
      split <;> exact closed
    have forwards := (List.reverse_perm (words.map (·.content.asWord))).flatten.countP_eq counts
    unfold weight worth
    rw [done, between, open_quotes, forwards, countP_flatten_asWord, List.length_reverse,
      List.length_map]
    simp [pending]
  have whole := gains_join some_word
  cases inside : final.current with
  | none =>
    rw [weight_endWord_none inside] at total
    omega
  | some parts =>
    rw [weight_endWord_some inside] at total
    omega

theorem not_ended_early {words more : List ShellWord} {parts : ShellWord} {t rest : Text}
    {s : Symbol} (inside : r.current = some parts) (fills : Fills r.endWord rest final)
    (finished : final.finish = some words)
    (meant : words = r.done.reverse ++ (parts.reverse ++ Text.asWord (s :: t)) :: more) : False := by
  have begun := done_prefix fills.read finished
  have ended : r.endWord.done = parts.reverse :: r.done := by simp [endWord, inside]
  rw [meant, ended, List.reverse_cons, List.prefix_append_right_inj] at begun
  obtain ⟨tail, same⟩ := begun
  have lengths := congrArg List.length (List.cons.inj same).1
  simp [Text.asWord] at lengths

theorem plain_of_fills {words more : List ShellWord} {parts : ShellWord} {t rest : Text}
    (bare : r.quoting = .bare) (inside : r.current = some parts) (unquoted : .char '"' ∉ t)
    (fills : Fills r (t ++ rest) final) (finished : final.finish = some words)
    (meant : words = r.done.reverse ++ (parts.reverse ++ t.asWord) :: more) :
    (∀ s ∈ t, IsPlain s) ∧ Fills (r.addText t) rest final := by
  induction t generalizing r parts with
  | nil =>
    rw [addText_nil inside]
    exact ⟨fun s member => (nomatch member), fills⟩
  | cons s t ih =>
    obtain ⟨notHere, notThere⟩ := not_or.1 (mt List.mem_cons.2 unquoted)
    rcases fills.bare bare with ⟨-, -, later⟩ | ⟨quote, -⟩ | ⟨plain, -, later⟩
    · exact (not_ended_early inside later finished meant).elim
    · exact absurd quote.symm notHere
    · have longer : (r.add (.literal s)).current = some (.literal s :: parts) := by
        simp [add, inside]
      have word : (WordPart.literal s :: parts).reverse ++ Text.asWord t =
          parts.reverse ++ Text.asWord (s :: t) := by
        simp [Text.asWord]
      obtain ⟨others, rest_fills⟩ := ih (r := r.add (.literal s)) bare longer notThere later
        (meant.trans (by rw [word]; rfl))
      rw [add_addText] at rest_fills
      exact ⟨List.forall_mem_cons.2 ⟨plain, others⟩, rest_fills⟩

theorem quotable_of_fills {parts : ShellWord} {t rest : Text} (double : r.quoting = .double)
    (inside : r.current = some parts) (closed : final.quoting = .bare) (unquoted : .char '"' ∉ t)
    (fills : Fills r (t ++ .char '"' :: rest) final) :
    Quotable t ∧ Fills (r.addText t) (.char '"' :: rest) final := by
  -- a backslash is read together with the symbol after it, so the induction takes two steps
  induction t using List.twoStepInduction generalizing r parts with
  | nil =>
    rw [addText_nil inside]
    exact ⟨trivial, fills⟩
  | singleton s =>
    have notHere : s ≠ .char '"' := fun same => unquoted (same ▸ List.mem_singleton_self s)
    rcases fills.double double closed with
      ⟨quote, -⟩ | ⟨-, x, tail, same, usual, -⟩ | ⟨usual, later⟩
    · exact absurd quote notHere
    · obtain rfl := (List.cons.inj same).1
      exact absurd (by decide) usual
    · exact ⟨quotable_of_plain (List.forall_mem_singleton.2 usual), later⟩
  | cons_cons s x t ihRest ih =>
    obtain ⟨notHere, notThere⟩ := not_or.1 (mt List.mem_cons.2 unquoted)
    rcases fills.double double closed with
      ⟨quote, -⟩ | ⟨rfl, y, tail, same, usual, sameLine, later⟩ | ⟨usual, later⟩
    · exact absurd quote.symm notHere
    · obtain ⟨rfl, rfl⟩ := List.cons.inj same
      obtain ⟨quotable, rest_fills⟩ := ihRest (r := (r.add (.literal (.char '\\'))).add (.literal x))
        double rfl (not_or.1 (mt List.mem_cons.2 notThere)).2 later
      rw [add_addText, add_addText] at rest_fills
      have ordinary : Quotable (x :: t) := by
        have other := mt (mem_escapable_iff x).2 usual
        refine ⟨by simpa only [not_or] using (not_or.1 other).2, fun same => ?_, quotable⟩
        exact absurd same (not_or.1 other).1
      exact ⟨⟨by decide, fun _ => ⟨x, rfl, usual, sameLine⟩, ordinary⟩, rest_fills⟩
    · obtain ⟨quotable, rest_fills⟩ := ih x (r := r.add (.literal s)) double rfl notThere later
      rw [add_addText] at rest_fills
      have other := mt (mem_escapable_iff s).2 usual
      refine ⟨⟨by simpa only [not_or] using (not_or.1 other).2, fun same => ?_, quotable⟩,
        rest_fills⟩
      exact absurd same (not_or.1 other).1

theorem sound_of_fills {words more : List ShellWord} {w : CommandWord} {rest : Text}
    (bare : r.quoting = .bare) (between : r.current = none) (unquoted : .char '"' ∉ w.content)
    (apart : rest = [] ∨ rest.head? = some (.char ' '))
    (fills : Fills r (w.text ++ rest) final) (finished : final.finish = some words)
    (meant : words = r.done.reverse ++ w.content.asWord :: more) :
    w.Sound ∧ Fills { r with current := some w.content.asWord.reverse } rest final := by
  cases w with
  | bare t =>
    cases t with
    | nil =>
      -- the blank after an empty word would be lost, and the end of the text ends no word
      rcases apart with rfl | blank
      · obtain rfl := Option.some.inj fills.read
        have ended := (finish_eq_some_iff.1 finished).2
        have same : r.endWord = r := by simp [endWord, between]
        rw [same, meant] at ended
        simp at ended
      · obtain ⟨tail, rfl⟩ := List.head?_eq_some_iff.1 blank
        rcases fills.bare bare with ⟨-, inside, -⟩ | ⟨quote, -⟩ | ⟨plain, -, -⟩
        · exact absurd between inside
        · exact absurd quote (by decide)
        · exact absurd plain (by decide)
    | cons s t =>
      obtain ⟨notHere, notThere⟩ := not_or.1 (mt List.mem_cons.2 unquoted)
      rcases fills.bare bare with ⟨-, inside, -⟩ | ⟨quote, -⟩ | ⟨plain, first, later⟩
      · exact absurd between inside
      · exact absurd quote.symm notHere
      · have started : (r.add (.literal s)).current = some [.literal s] := by simp [add, between]
        obtain ⟨others, rest_fills⟩ := plain_of_fills (r := r.add (.literal s)) bare started
          notThere later finished meant
        refine ⟨⟨List.cons_ne_nil s t, List.forall_mem_cons.2 ⟨plain, others⟩, ?_⟩, ?_⟩
        · intro x same
          exact Option.some.inj same ▸ first between
        · rw [add_addText] at rest_fills
          simpa [addText, between, content] using rest_fills
  | quoted t =>
    have closed := (finish_eq_some_iff.1 finished).1
    have split : (quoted t).text ++ rest = .char '"' :: (t ++ .char '"' :: rest) := by
      simp [text, Text.ofString]
    rw [split] at fills
    have opened : Fills (r.enter .double) (t ++ .char '"' :: rest) final := by
      rcases fills.bare bare with ⟨blank, -⟩ | ⟨-, later⟩ | ⟨plain, -⟩
      · exact absurd blank (by decide)
      · exact later
      · exact absurd plain (by decide)
    obtain ⟨quotable, later⟩ := quotable_of_fills (r := r.enter .double) rfl rfl closed unquoted opened
    refine ⟨quotable, ?_⟩
    rcases later.double rfl closed with ⟨-, rest_fills⟩ | ⟨backslash, -⟩ | ⟨usual, -⟩
    · simpa [addText, enter, between, bare, content] using rest_fills
    · exact absurd backslash (by decide)
    · exact absurd (by decide) usual

theorem sound_of_fills_join {words : List CommandWord} (bare : r.quoting = .bare)
    (between : r.current = none) (unquoted : ∀ w ∈ words, .char '"' ∉ w.content)
    (fills : Fills r (Text.join " " (words.map text)) final)
    (finished : final.finish = some (r.done.reverse ++ words.map (·.content.asWord))) :
    ∀ w ∈ words, w.Sound := by
  induction words generalizing r with
  | nil => exact fun w member => nomatch member
  | cons w rest ih =>
    obtain ⟨here, there⟩ := List.forall_mem_cons.1 unquoted
    by_cases alone : rest = []
    · subst alone
      have single : Text.join " " [w.text] = w.text ++ [] := (List.append_nil _).symm
      rw [List.map_singleton, single] at fills
      exact List.forall_mem_singleton.2
        (sound_of_fills bare between here (.inl rfl) fills finished rfl).1
    · have more : rest.map text ≠ [] := by simpa using alone
      rw [List.map_cons, Text.join_cons _ _ more, List.append_assoc] at fills
      obtain ⟨sound, later⟩ := sound_of_fills bare between here (.inr rfl) fills finished rfl
      have next : Fills { r with done := w.content.asWord :: r.done }
          (Text.join " " (rest.map text)) final := by
        rcases later.bare bare with ⟨-, -, ended⟩ | ⟨quote, -⟩ | ⟨plain, -⟩
        · simpa [endWord, between] using ended
        · exact absurd quote (by decide)
        · exact absurd plain (by decide)
      refine List.forall_mem_cons.2 ⟨sound, ih (r := { r with done := w.content.asWord :: r.done })
        bare between there next ?_⟩
      rw [finished]
      simp

/-- A command is read as the contents of its words just when each word keeps to its rule. -/
theorem shellWords?_join_iff {words : List CommandWord} :
    (Text.join " " (words.map text)).shellWords? = some (words.map (·.content.asWord)) ↔
      ∀ w ∈ words, w.Sound := by
  constructor
  · intro read
    by_cases none : words = []
    · subst none
      exact fun w member => nomatch member
    · obtain ⟨final, fills, finished⟩ := fills_of_shellWords? none read
      obtain ⟨closed, ended⟩ := finish_eq_some_iff.1 finished
      have clean : final.endWord.Unquoted :=
        (fills.unquoted closed (.inl rfl)
          ⟨fun part member => (nomatch member), fun word member => (nomatch member)⟩).endWord
      have unquoted : ∀ w ∈ words, .char '"' ∉ w.content := by
        intro w member quote
        have word : w.content.asWord ∈ final.endWord.done := by
          rw [← List.mem_reverse, ← ended]
          exact List.mem_map_of_mem member
        exact clean.2 _ word _ (List.mem_map_of_mem quote) rfl
      exact sound_of_fills_join rfl rfl unquoted fills finished
  · intro sound
    rw [shellWords?_eq]
    exact read_join rfl rfl sound

end CommandWord

end SandboxShell

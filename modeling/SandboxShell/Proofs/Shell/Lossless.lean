import SandboxShell.Proofs.Shell.Reading

/-!
A reading of words that loses nothing. Each symbol of a command can bring at most one part of a word
or one end of a word, and a double quote brings neither. A command that is read as its own words
gains all that it can, so that none of its symbols is lost: this rules out escapes and single
quotes, and with them every way for a symbol to be read as itself outside the rule for its place.
-/

namespace SandboxShell

namespace WordReader

variable {r next final : WordReader} {s : Symbol} {t : Text}

def counts (part : WordPart) : Bool := part ≠ .literal (.char '"')

def pending : Quoting → Nat
  | .doubleEscaped | .name _ => 1
  | .bare | .escaped | .single | .double => 0

/-- What a reader has gained: the parts of words that count, and the ends of words. -/
def weight (r : WordReader) : Nat :=
  (r.current.getD []).countP counts + r.done.flatten.countP counts + r.done.length +
    pending r.quoting

def gain (s : Symbol) : Nat := if s = .char '"' then 0 else 1

def gains (t : Text) : Nat := t.countP (· ≠ .char '"')

theorem gain_of_ne (other : s ≠ .char '"') : gain s = 1 := if_neg other

theorem gains_cons (s : Symbol) (t : Text) : gains (s :: t) = gain s + gains t := by
  by_cases quote : s = .char '"' <;> simp [gains, gain, quote, Nat.add_comm]

theorem weight_add (r : WordReader) (s : Symbol) : (r.add (.literal s)).weight = r.weight + gain s := by
  unfold weight add gain counts
  by_cases quote : s = .char '"'
  · simp [quote]
  · simp [quote]
    omega

theorem weight_add_variable (r : WordReader) (name : Text) :
    (r.add (.variable name)).weight = r.weight + 1 := by
  simp [weight, add, counts]
  omega

theorem weight_quoting (r : WordReader) (q : Quoting) :
    ({ r with quoting := q } : WordReader).weight + pending r.quoting = r.weight + pending q := by
  unfold weight
  dsimp only
  omega

theorem weight_enter (bare : r.quoting = .bare) {q : Quoting} (open_quotes : pending q = 0) :
    (r.enter q).weight = r.weight := by
  have unquoted : pending .bare = 0 := rfl
  simp [weight, enter, bare, open_quotes, unquoted]

theorem weight_endWord_none (between : r.current = none) : r.endWord.weight = r.weight := by
  simp [endWord, between]

theorem weight_endWord_some {parts : ShellWord} (inside : r.current = some parts) :
    r.endWord.weight = r.weight + 1 := by
  simp [weight, endWord, inside]
  omega

theorem weight_stepBare (bare : r.quoting = .bare) (step : r.stepBare s = some next) :
    next.weight ≤ r.weight + gain s := by
  unfold stepBare at step
  have escaped := r.weight_quoting .escaped
  rw [bare] at escaped
  simp only [pending, Nat.add_zero] at escaped
  split_ifs at step with blank backslash single double refused
  all_goals obtain rfl := Option.some.inj step
  · have other : s ≠ .char '"' := by rintro rfl; simp at blank
    rw [gain_of_ne other]
    cases inside : r.current with
    | none =>
      rw [weight_endWord_none inside]
      omega
    | some parts => exact Nat.le_of_eq (weight_endWord_some inside)
  · omega
  · rw [weight_enter bare rfl]
    omega
  · rw [weight_enter bare rfl]
    omega
  · exact Nat.le_of_eq (weight_add r s)

theorem weight_stepDouble (double : r.quoting = .double) (step : r.stepDouble s = some next) :
    next.weight ≤ r.weight + gain s := by
  unfold stepDouble at step
  have closed := r.weight_quoting .bare
  have escaped := r.weight_quoting .doubleEscaped
  have named := r.weight_quoting (.name [])
  rw [double] at closed escaped named
  simp only [pending, Nat.add_zero] at closed escaped named
  split_ifs at step with quote backslash dollar
  all_goals obtain rfl := Option.some.inj step
  · omega
  · subst backslash
    rw [gain_of_ne (by decide)]
    omega
  · subst dollar
    rw [gain_of_ne (by decide)]
    omega
  · exact Nat.le_of_eq (weight_add r s)

theorem weight_step (step : r.step s = some next) : next.weight ≤ r.weight + gain s := by
  cases quoting : r.quoting with
  | bare => exact weight_stepBare quoting (step_bare quoting s ▸ step)
  | double => exact weight_stepDouble quoting (step_double quoting s ▸ step)
  | escaped =>
    have bare := r.weight_quoting .bare
    simp only [WordReader.step, quoting] at step
    rw [quoting] at bare
    simp only [pending, Nat.add_zero] at bare
    split_ifs at step
    all_goals obtain rfl := Option.some.inj step
    · omega
    · rw [weight_add]
      omega
  | single =>
    have bare := r.weight_quoting .bare
    simp only [WordReader.step, quoting] at step
    rw [quoting] at bare
    simp only [pending, Nat.add_zero] at bare
    split_ifs at step
    all_goals obtain rfl := Option.some.inj step
    · omega
    · exact Nat.le_of_eq (weight_add r s)
  | doubleEscaped =>
    have double := r.weight_quoting .double
    simp only [WordReader.step, quoting] at step
    rw [quoting] at double
    simp only [pending, Nat.add_zero] at double
    split_ifs at step
    all_goals obtain rfl := Option.some.inj step
    · omega
    · rw [weight_add]
      omega
    · rw [weight_add, weight_add, gain_of_ne (s := .char '\\') (by decide)]
      omega
  | name letters =>
    have double := r.weight_quoting .double
    have longer := r.weight_quoting (.name (s :: letters))
    simp only [WordReader.step, quoting] at step
    rw [quoting] at double longer
    simp only [pending, Nat.add_zero] at double longer
    split_ifs at step
    · obtain rfl := Option.some.inj step
      omega
    · have bound := weight_stepDouble (r := { r with quoting := .double }.add _) rfl step
      rw [weight_add_variable] at bound
      omega

theorem weight_read (steps : r.read t = some final) : final.weight ≤ r.weight + gains t := by
  induction t generalizing r with
  | nil =>
    obtain rfl := Option.some.inj steps
    exact Nat.le_add_right _ _
  | cons s rest ih =>
    rw [read_cons] at steps
    obtain ⟨next, one, others⟩ := Option.bind_eq_some_iff.1 steps
    calc
      final.weight ≤ next.weight + gains rest := ih others
      _ ≤ r.weight + gain s + gains rest := Nat.add_le_add_right (weight_step one) _
      _ = r.weight + gains (s :: rest) := by rw [gains_cons, Nat.add_assoc]

/-- The reader comes to `final` over a text, and gains from it all that it can. -/
structure Fills (r : WordReader) (t : Text) (final : WordReader) : Prop where
  read : r.read t = some final
  weight : final.weight = r.weight + gains t

theorem Fills.cons (fills : Fills r (s :: t) final) :
    ∃ next, r.step s = some next ∧ next.weight = r.weight + gain s ∧ Fills next t final := by
  obtain ⟨next, one, others⟩ := Option.bind_eq_some_iff.1 ((read_cons r s t).symm.trans fills.read)
  have whole := gains_cons s t
  have total := fills.weight
  have first := weight_step one
  have later := weight_read others
  exact ⟨next, one, by omega, others, by omega⟩

theorem Fills.bare (fills : Fills r (s :: t) final) (bare : r.quoting = .bare) :
    (s ∈ Text.ofString " \t\n" ∧ r.current ≠ none ∧ Fills r.endWord t final) ∨
      (s = .char '"' ∧ Fills (r.enter .double) t final) ∨
      (IsPlain s ∧ (r.current = none → s ∉ specialFirst) ∧ Fills (r.add (.literal s)) t final) := by
  obtain ⟨next, one, weight, later⟩ := fills.cons
  rw [step_bare bare] at one
  have escaped := r.weight_quoting .escaped
  rw [bare] at escaped
  simp only [pending, Nat.add_zero] at escaped
  unfold stepBare at one
  split_ifs at one with blank backslash single double refused
  all_goals obtain rfl := Option.some.inj one
  · have other : s ≠ .char '"' := by rintro rfl; simp at blank
    refine .inl ⟨by simpa [Text.ofString] using blank, fun between => ?_, later⟩
    rw [weight_endWord_none between, gain_of_ne other] at weight
    omega
  · subst backslash
    rw [gain_of_ne (by decide)] at weight
    omega
  · subst single
    rw [gain_of_ne (by decide), weight_enter bare rfl] at weight
    omega
  · exact .inr (.inl ⟨double, later⟩)
  · obtain ⟨ordinary, first⟩ := not_or.1 refused
    refine .inr (.inr ⟨⟨fun breaks => ?_, ordinary⟩, fun between means => first ⟨between, means⟩,
      later⟩)
    rcases (mem_breaking_iff s).1 breaks with blanks | same | same | same
    · exact blank blanks
    · exact backslash same
    · exact single same
    · exact double same

theorem Fills.double (fills : Fills r (s :: t) final) (double : r.quoting = .double)
    (closed : final.quoting = .bare) :
    (s = .char '"' ∧ Fills { r with quoting := .bare } t final) ∨
      (s = .char '\\' ∧ ∃ x rest, t = x :: rest ∧ x ∉ escapable ∧ x ≠ .char '\n' ∧
        Fills ((r.add (.literal (.char '\\'))).add (.literal x)) rest final) ∨
      (s ∉ escapable ∧ Fills (r.add (.literal s)) t final) := by
  obtain ⟨next, one, weight, later⟩ := fills.cons
  rw [step_double double] at one
  unfold stepDouble at one
  split_ifs at one with quote backslash dollar backquote
  all_goals obtain rfl := Option.some.inj one
  · exact .inl ⟨quote, later⟩
  · refine .inr (.inl ⟨backslash, ?_⟩)
    cases t with
    | nil =>
      obtain rfl := Option.some.inj later.read
      cases closed
    | cons x rest =>
      obtain ⟨second, two, gained, rest_fills⟩ := later.cons
      have undone := r.weight_quoting .double
      have waiting := r.weight_quoting .doubleEscaped
      rw [double] at undone waiting
      simp only [pending, Nat.add_zero] at undone waiting
      simp only [WordReader.step] at two
      split_ifs at two with newline escapes
      all_goals obtain rfl := Option.some.inj two
      · subst newline
        rw [gain_of_ne (by decide)] at gained
        omega
      · rw [weight_add] at gained
        omega
      · refine ⟨x, rest, rfl, escapes, newline, ?_⟩
        rw [← double] at rest_fills
        exact rest_fills
  · -- no letter after a dollar sign brings anything, and nothing else may follow it
    cases t with
    | nil =>
      obtain rfl := Option.some.inj later.read
      cases closed
    | cons x rest =>
      obtain ⟨second, two, gained, -⟩ := later.cons
      simp only [WordReader.step] at two
      split_ifs at two with letter
      obtain rfl := Option.some.inj two
      have other : x ≠ .char '"' := by
        rintro rfl
        simp [isLetter] at letter
      rw [gain_of_ne other] at gained
      simp [WordReader.weight, pending] at gained
  · refine .inr (.inr ⟨fun escapes => ?_, later⟩)
    rcases (mem_escapable_iff s).1 escapes with same | same | same | same
    · exact backslash same
    · exact quote same
    · exact dollar same
    · exact backquote same

def Unquoted (r : WordReader) : Prop :=
  (∀ part ∈ r.current.getD [], part ≠ .literal (.char '"')) ∧
    ∀ word ∈ r.done, ∀ part ∈ word, part ≠ .literal (.char '"')

theorem Unquoted.add (unquoted : r.Unquoted) (other : s ≠ .char '"') :
    (r.add (.literal s)).Unquoted := by
  refine ⟨?_, unquoted.2⟩
  intro part member
  rcases List.mem_cons.1 member with rfl | before
  · exact fun same => other (WordPart.literal.inj same)
  · exact unquoted.1 part before

theorem Unquoted.endWord (unquoted : r.Unquoted) : r.endWord.Unquoted := by
  unfold WordReader.endWord
  cases inside : r.current with
  | none => exact unquoted
  | some parts =>
    obtain ⟨here, there⟩ := unquoted
    rw [inside] at here
    refine ⟨fun part member => (nomatch member), ?_⟩
    intro word member
    rcases List.mem_cons.1 member with rfl | before
    · exact fun part inner => here part (List.mem_reverse.1 inner)
    · exact there word before

theorem Fills.unquoted (fills : Fills r t final) (closed : final.quoting = .bare)
    (place : r.quoting = .bare ∨ r.quoting = .double) (unquoted : r.Unquoted) :
    final.Unquoted := by
  induction length : t.length using Nat.strongRecOn generalizing r t with
  | ind n ih =>
    subst length
    cases t with
    | nil =>
      obtain rfl := Option.some.inj fills.read
      exact unquoted
    | cons s t =>
      have shorter : t.length < (s :: t).length := Nat.lt_succ_self _
      rcases place with bare | double
      · rcases fills.bare bare with ⟨-, -, later⟩ | ⟨-, later⟩ | ⟨plain, -, later⟩
        · refine ih _ shorter later (.inl ?_) unquoted.endWord rfl
          unfold WordReader.endWord
          split <;> exact bare
        · exact ih _ shorter later (.inr rfl) unquoted rfl
        · exact ih _ shorter later (.inl bare) (unquoted.add (plain.ne (by decide))) rfl
      · rcases fills.double double closed with
          ⟨-, later⟩ | ⟨-, x, rest, rfl, usual, -, later⟩ | ⟨usual, later⟩
        · exact ih _ shorter later (.inl rfl) unquoted rfl
        · have other : x ≠ .char '"' := fun same => usual (same ▸ by decide)
          exact ih _ (Nat.lt_of_succ_lt shorter) later (.inr double)
            ((unquoted.add (by decide)).add other) rfl
        · have other : s ≠ .char '"' := fun same => usual (same ▸ by decide)
          exact ih _ shorter later (.inr double) (unquoted.add other) rfl

theorem done_step (step : r.step s = some next) : r.done <:+ next.done := by
  have ended : r.done <:+ r.endWord.done := by
    unfold endWord
    split
    · exact List.suffix_refl _
    · exact List.suffix_cons _ _
  have bareStep (one : r.stepBare s = some next) : r.done <:+ next.done := by
    unfold stepBare at one
    split_ifs at one
    all_goals obtain rfl := Option.some.inj one
    · exact ended
    all_goals exact List.suffix_refl _
  have doubleStep (q : WordReader) (same : q.done = r.done) (one : q.stepDouble s = some next) :
      r.done <:+ next.done := by
    unfold stepDouble at one
    split_ifs at one
    all_goals
      obtain rfl := Option.some.inj one
      exact same ▸ List.suffix_refl _
  cases quoting : r.quoting with
  | bare => exact bareStep (step_bare quoting s ▸ step)
  | double => exact doubleStep r rfl (step_double quoting s ▸ step)
  | escaped | single | doubleEscaped =>
    simp only [WordReader.step, quoting] at step
    split_ifs at step
    all_goals
      obtain rfl := Option.some.inj step
      exact List.suffix_refl _
  | name letters =>
    simp only [WordReader.step, quoting] at step
    split_ifs at step
    · obtain rfl := Option.some.inj step
      exact List.suffix_refl _
    · exact doubleStep _ (by rfl) step

theorem done_read (steps : r.read t = some final) : r.done <:+ final.done := by
  induction t generalizing r with
  | nil =>
    obtain rfl := Option.some.inj steps
    exact List.suffix_refl _
  | cons s rest ih =>
    rw [read_cons] at steps
    obtain ⟨next, one, others⟩ := Option.bind_eq_some_iff.1 steps
    exact (done_step one).trans (ih others)

theorem finish_eq_some_iff {words : List ShellWord} :
    final.finish = some words ↔ final.quoting = .bare ∧ words = final.endWord.done.reverse := by
  unfold finish
  by_cases closed : final.quoting = .bare
  · rw [if_pos closed, Option.some.injEq, eq_comm]
    exact (and_iff_right closed).symm
  · rw [if_neg closed]
    exact iff_of_false (fun same => nomatch same) (fun both => closed both.1)

theorem done_prefix {words : List ShellWord} (steps : r.read t = some final)
    (finished : final.finish = some words) : r.done.reverse <+: words := by
  rw [(finish_eq_some_iff.1 finished).2, List.reverse_prefix]
  apply (done_read steps).trans
  unfold endWord
  split
  · exact List.suffix_refl _
  · exact List.suffix_cons _ _

end WordReader

end SandboxShell

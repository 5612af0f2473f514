import SandboxShell.Json.Reader
import Mathlib.Data.List.TakeWhile

/-!
What the readers of single tokens do. A string is never read past a limit, and its reading leaves
less of the text; the one scalar that is too long to be read is a whole number, and it is met as a
run of digits that nothing carries on.
-/

namespace SandboxShell

namespace Json

def Fault.isLimit : Fault → Bool
  | .malformed .. => false
  | .tooManyDigits _ | .tooDeep _ => true

theorem skipGap_length_le (t : Text) : (skipGap t).length ≤ t.length :=
  (List.dropWhile_sublist _).length_le

/-- Reading in front of `t` leaves less of it, or ends with a complaint. -/
def Shrinks {α : Type} (t : Text) : Except Fault (α × Text) → Prop
  | .ok (_, after) => after.length < t.length
  | .error fault => fault.isLimit = false

theorem Shrinks.map {α β : Type} {t : Text} {result : Except Fault (α × Text)}
    (shrinks : Shrinks t result) (f : α → β) :
    Shrinks t (result.map fun (a, after) => (f a, after)) := by
  cases result with
  | ok pair => exact shrinks
  | error fault => exact shrinks

theorem Shrinks.of_le {α : Type} {t u : Text} {result : Except Fault (α × Text)}
    (shrinks : Shrinks t result) (shorter : t.length ≤ u.length) : Shrinks u result := by
  cases result with
  | ok pair => exact Nat.lt_of_lt_of_le shrinks shorter
  | error fault => exact shrinks

theorem stringSymbols_shrinks (opening t : Text) : Shrinks t (stringSymbols opening t) := by
  fun_induction stringSymbols opening t with
  | case1 | case3 | case4 | case6 | case7 | case9 | case10 => rfl
  | case2 rest => exact Nat.lt_succ_self _
  | case5 a b c d rest n spelled more ih =>
    exact (ih.map (Symbol.ofCode n :: ·)).of_le (by simp only [List.length_cons]; omega)
  | case8 s rest _ _ c short ih =>
    exact (ih.map (Symbol.char c :: ·)).of_le (by simp only [List.length_cons]; omega)
  | case11 s rest _ _ _ ih =>
    exact (ih.map (s :: ·)).of_le (by simp only [List.length_cons]; omega)

theorem readString_shrinks (opening rest : Text) : Shrinks rest (readString opening rest) :=
  (stringSymbols_shrinks opening rest).map joinPairs

namespace Numeral

inductive Continues : Text → Prop where
  | digit {s : Symbol} (digit : isDigit s = true) (rest : Text) : Continues (s :: rest)
  | fraction {s : Symbol} (digit : isDigit s = true) (rest : Text) :
      Continues (.char '.' :: s :: rest)
  | exponent {e s : Symbol} (letter : e = .char 'e' ∨ e = .char 'E') (digit : isDigit s = true)
      (rest : Text) : Continues (e :: s :: rest)
  | signed {e sign s : Symbol} (letter : e = .char 'e' ∨ e = .char 'E')
      (signed : sign = .char '-' ∨ sign = .char '+') (digit : isDigit s = true) (rest : Text) :
      Continues (e :: sign :: s :: rest)

theorem takeWhile_isDigit_eq_nil {t : Text} (stops : ∀ s ∈ t.head?, isDigit s = false) :
    t.takeWhile isDigit = [] := by
  cases t with
  | nil => rfl
  | cons s rest => rw [List.takeWhile_cons, stops s rfl, if_neg (by decide)]

theorem stops_dropWhile (t : Text) : ∀ s ∈ (t.dropWhile isDigit).head?, isDigit s = false := by
  intro s first
  have stop := List.head?_dropWhile_not isDigit t
  rw [Option.mem_def.1 first] at stop
  exact stop

theorem readFraction_of_not_continues {t : Text} (ends : ¬ Continues t) :
    readFraction t = ([], t) := by
  unfold readFraction
  split
  · rename_i rest
    have stops : ∀ s ∈ rest.head?, isDigit s = false := by
      intro s first
      obtain ⟨more, rfl⟩ := List.head?_eq_some_iff.1 first
      exact Bool.eq_false_iff.2 fun digit => ends (.fraction digit more)
    rw [takeWhile_isDigit_eq_nil stops]
  · rfl

theorem readExponent_of_not_continues {t : Text} (ends : ¬ Continues t) :
    readExponent t = (none, t) := by
  unfold readExponent
  split
  · rename_i e rest
    split
    · rename_i letter
      have stops : ∀ s ∈ (readSign rest).2.head?, isDigit s = false := by
        intro s first
        obtain ⟨more, signed⟩ := List.head?_eq_some_iff.1 first
        refine Bool.eq_false_iff.2 fun digit => ?_
        unfold readSign at signed
        split at signed
        · obtain rfl := signed
          exact ends (.signed letter (.inl rfl) digit more)
        · obtain rfl := signed
          exact ends (.signed letter (.inr rfl) digit more)
        · obtain rfl := signed
          exact ends (.exponent letter digit more)
      dsimp only
      rw [takeWhile_isDigit_eq_nil stops]
    · rfl
  · rfl

theorem readSign_digit {s : Symbol} (digit : isDigit s = true) (rest : Text) :
    readSign (s :: rest) = (false, s :: rest) := by
  unfold readSign
  split
  · rename_i same
    obtain rfl := (List.cons.inj same).1
    cases digit
  · rename_i same
    obtain rfl := (List.cons.inj same).1
    cases digit
  · rfl

theorem readExponent_ne_none {e s : Symbol} (letter : e = .char 'e' ∨ e = .char 'E')
    {more after : Text} {negative : Bool} (sign : readSign more = (negative, s :: after))
    (digit : isDigit s = true) : (readExponent (e :: more)).1 ≠ none := by
  unfold readExponent
  dsimp only
  rw [if_pos letter, sign]
  simp [digit]

theorem fraction_or_exponent {t : Text} (continues : Continues t)
    (stops : ∀ s ∈ t.head?, isDigit s = false) :
    (readFraction t).1 ≠ [] ∨ (readExponent t).1 ≠ none := by
  cases continues with
  | digit digit rest => simp [stops _ rfl] at digit
  | fraction digit rest =>
    left
    simp [readFraction, digit]
  | exponent letter digit rest =>
    exact .inr (readExponent_ne_none letter (readSign_digit digit rest) digit)
  | @signed e sign s letter signed digit rest =>
    right
    have minus : readSign (.char '-' :: s :: rest) = (true, s :: rest) := rfl
    have plus : readSign (.char '+' :: s :: rest) = (false, s :: rest) := rfl
    rcases signed with rfl | rfl
    · exact readExponent_ne_none letter minus digit
    · exact readExponent_ne_none letter plus digit

def Whole (n : Nat) (t : Text) : Prop :=
  ∃ sign digits rest, t = sign ++ digits ++ rest ∧ (sign = [] ∨ sign = [.char '-']) ∧
    digits.length = n ∧ (∀ s ∈ digits, isDigit s = true) ∧ digits.head? ≠ some (.char '0') ∧
    ¬ Continues rest

theorem whole?_length {t digits rest : Text} (read : whole? t = some (digits, rest)) :
    rest.length < t.length := by
  unfold whole? at read
  split at read
  · obtain ⟨-, rfl⟩ := Prod.mk.inj (Option.some.inj read)
    exact Nat.lt_succ_self _
  · split at read
    · obtain ⟨-, rfl⟩ := Prod.mk.inj (Option.some.inj read)
      exact Nat.lt_succ_of_le (List.dropWhile_sublist _).length_le
    · cases read
  · cases read

theorem readFraction_length (t : Text) : (readFraction t).2.length ≤ t.length := by
  unfold readFraction
  split
  · split
    · exact Nat.le_refl _
    · exact Nat.le_succ_of_le (List.dropWhile_sublist _).length_le
  · exact Nat.le_refl _

theorem readSign_length (t : Text) : (readSign t).2.length ≤ t.length := by
  unfold readSign
  split
  · exact Nat.le_succ _
  · exact Nat.le_succ _
  · exact Nat.le_refl _

theorem readExponent_length (t : Text) : (readExponent t).2.length ≤ t.length := by
  unfold readExponent
  split
  · rename_i s rest
    split
    · dsimp only
      split
      · exact Nat.le_refl _
      · exact Nat.le_succ_of_le
          (Nat.le_trans (List.dropWhile_sublist _).length_le (readSign_length rest))
    · exact Nat.le_refl _
  · exact Nat.le_refl _

def unsigned : Text → Text
  | .char '-' :: rest => rest
  | t => t

theorem unsigned_length (t : Text) : (unsigned t).length ≤ t.length := by
  unfold unsigned
  split
  · exact Nat.le_succ _
  · exact Nat.le_refl _

theorem read?_eq (t : Text) : ∃ negative, read? t = (whole? (unsigned t)).map fun (whole, after) =>
    (⟨negative, whole, (readFraction after).1, (readExponent (readFraction after).2).1⟩,
      (readExponent (readFraction after).2).2) := by
  fun_cases unsigned t with
  | case1 rest => exact ⟨true, rfl⟩
  | case2 _ plain =>
    refine ⟨false, ?_⟩
    unfold read?
    split
    rename_i negative bare same
    split at same
    · rename_i rest
      exact absurd rfl (plain rest)
    · obtain ⟨rfl, rfl⟩ := Prod.mk.inj same
      rfl

theorem read?_length {t rest : Text} {n : Numeral} (read : read? t = some (n, rest)) :
    rest.length < t.length := by
  obtain ⟨negative, parts⟩ := read?_eq t
  rw [parts] at read
  obtain ⟨⟨whole, after⟩, first, made⟩ := Option.map_eq_some_iff.1 read
  obtain ⟨-, rfl⟩ := Prod.mk.inj made
  have one := whole?_length first
  have two := readFraction_length after
  have three := readExponent_length (readFraction after).2
  have four := unsigned_length t
  omega

theorem exists_sign (t : Text) :
    ∃ sign, t = sign ++ unsigned t ∧ (sign = [] ∨ sign = [.char '-']) := by
  fun_cases unsigned t with
  | case1 rest => exact ⟨[.char '-'], rfl, .inr rfl⟩
  | case2 => exact ⟨[], rfl, .inl rfl⟩

theorem readFraction_snd {t : Text} (whole : (readFraction t).1 = []) : (readFraction t).2 = t := by
  unfold readFraction at whole ⊢
  split at whole
  · split at whole
    · rfl
    · rename_i digits some
      exact absurd whole some
  · rfl

theorem whole_of_whole? {t digits after : Text} (first : whole? (unsigned t) = some (digits, after))
    (long : digitLimit < digits.length) (fraction : (readFraction after).1 = [])
    (exponent : (readExponent (readFraction after).2).1 = none) : Whole digits.length t := by
  obtain ⟨sign, split, signed⟩ := exists_sign t
  generalize unsigned t = bare at first split
  subst split
  rw [readFraction_snd fraction] at exponent
  unfold whole? at first
  split at first
  · obtain ⟨rfl, -⟩ := Prod.mk.inj (Option.some.inj first)
    exact absurd long (by decide)
  · rename_i s rest other
    split at first
    · rename_i digit
      obtain ⟨rfl, rfl⟩ := Prod.mk.inj (Option.some.inj first)
      refine ⟨sign, s :: rest.takeWhile isDigit, rest.dropWhile isDigit, ?_, signed, rfl,
        ?_, ?_, ?_⟩
      · rw [List.append_assoc, List.cons_append, List.takeWhile_append_dropWhile]
      · intro x member
        rcases List.mem_cons.1 member with rfl | later
        · exact digit
        · exact List.mem_takeWhile_imp later
      · rintro zero
        obtain rfl := Option.some.inj zero
        exact other rfl
      · intro continues
        rcases fraction_or_exponent continues (stops_dropWhile rest) with more | more
        · exact more fraction
        · exact more exponent
    · cases first
  · cases first

theorem stops_of_not_continues {t : Text} (ends : ¬ Continues t) :
    ∀ s ∈ t.head?, isDigit s = false := by
  intro s first
  obtain ⟨after, rfl⟩ := List.head?_eq_some_iff.1 first
  exact Bool.eq_false_iff.2 fun digit => ends (.digit digit after)

theorem dropWhile_isDigit_eq_self {t : Text} (stops : ∀ s ∈ t.head?, isDigit s = false) :
    t.dropWhile isDigit = t := by
  have whole := List.takeWhile_append_dropWhile (p := isDigit) (l := t)
  rwa [takeWhile_isDigit_eq_nil stops] at whole

theorem whole?_digits {digits rest : Text} (given : digits ≠ [])
    (all : ∀ s ∈ digits, isDigit s = true)
    (proper : digits = [.char '0'] ∨ digits.head? ≠ some (.char '0'))
    (stops : ∀ s ∈ rest.head?, isDigit s = false) : whole? (digits ++ rest) = some (digits, rest) := by
  rcases proper with rfl | unzeroed
  · rfl
  cases digits with
  | nil => exact absurd rfl given
  | cons s more =>
    have others : ∀ x ∈ more, isDigit x = true := fun x later =>
      all x (List.mem_cons_of_mem _ later)
    rw [List.cons_append]
    unfold whole?
    split
    · rename_i same
      rw [(List.cons.inj same).1] at unzeroed
      exact absurd rfl unzeroed
    · rename_i x tail _ same
      obtain ⟨rfl, rfl⟩ := List.cons.inj same
      rw [if_pos (all s List.mem_cons_self), List.takeWhile_append_of_pos others,
        List.dropWhile_append_of_pos others, takeWhile_isDigit_eq_nil stops,
        dropWhile_isDigit_eq_self stops, List.append_nil]
    · rename_i same
      cases same

theorem unsigned_digits {sign digits rest : Text} (signed : sign = [] ∨ sign = [.char '-'])
    (given : digits ≠ []) (all : ∀ s ∈ digits, isDigit s = true) :
    unsigned (sign ++ digits ++ rest) = digits ++ rest := by
  rcases signed with rfl | rfl
  · unfold unsigned
    split
    · rename_i same
      cases digits with
      | nil => exact absurd rfl given
      | cons s more =>
        have minus : s = .char '-' := (List.cons.inj same).1
        have digit := all s List.mem_cons_self
        rw [minus] at digit
        cases digit
    · rfl
  · rfl

end Numeral

theorem readScalar_length {t rest : Text} {v : Json} (read : readScalar t = .ok (v, rest)) :
    rest.length < t.length := by
  unfold readScalar at read
  split at read
  · rename_i word value found
    obtain ⟨-, rfl⟩ := Prod.mk.inj (Except.ok.inj read)
    have start := List.find?_some found
    have member := List.mem_of_find?_eq_some found
    have hollow : ∀ entry ∈ constants, 0 < entry.1.length := by decide
    have positive : 0 < word.length := hollow _ member
    have fits : word.length ≤ t.length := (List.isPrefixOf_iff_prefix.1 start).length_le
    rw [List.length_drop]
    omega
  · split at read
    · rename_i numeral after number
      cases value : numeral.value with
      | error fault => simp [value, Except.map] at read
      | ok v =>
        simp only [value, Except.map] at read
        obtain ⟨-, rfl⟩ := Prod.mk.inj (Except.ok.inj read)
        exact Numeral.read?_length number
    · cases read

theorem value_limit {n : Numeral} {fault : Fault} (refused : n.value = .error fault) :
    fault = .tooManyDigits n.whole.length ∧ digitLimit < n.whole.length ∧ n.fraction = [] ∧
      n.exponent = none := by
  unfold Numeral.value at refused
  split at refused
  · rename_i bare
    split at refused
    · rename_i long
      exact ⟨(Except.error.inj refused).symm, long, bare⟩
    · cases refused
  · cases refused

theorem readScalar_limit {t : Text} {fault : Fault} (read : readScalar t = .error fault)
    (limit : fault.isLimit = true) :
    ∃ n, fault = .tooManyDigits n ∧ digitLimit < n ∧ Numeral.Whole n t := by
  unfold readScalar at read
  split at read
  · cases read
  · split at read
    · rename_i numeral rest number
      cases value : numeral.value with
      | ok v => simp [value, Except.map] at read
      | error other =>
        simp only [value, Except.map] at read
        obtain rfl := Except.error.inj read
        obtain ⟨same, long, fraction, exponent⟩ := value_limit value
        refine ⟨_, same, long, ?_⟩
        obtain ⟨negative, parts⟩ := Numeral.read?_eq t
        rw [parts] at number
        obtain ⟨⟨whole, after⟩, first, made⟩ := Option.map_eq_some_iff.1 number
        obtain ⟨rfl, -⟩ := Prod.mk.inj made
        exact Numeral.whole_of_whole? first long fraction exponent
    · obtain rfl := Except.error.inj read
      cases limit

theorem find?_constants {sign digits rest : Text} (signed : sign = [] ∨ sign = [.char '-'])
    (given : digits ≠ []) (all : ∀ s ∈ digits, isDigit s = true) :
    constants.find? (fun entry => Text.startsWith (sign ++ digits ++ rest) entry.1) = none := by
  refine List.find?_eq_none.2 fun entry member start => ?_
  obtain ⟨tail, same⟩ := List.isPrefixOf_iff_prefix.1 start
  cases digits with
  | nil => exact given rfl
  | cons s more =>
    have digit := all s List.mem_cons_self
    simp only [constants, List.mem_cons, List.not_mem_nil, or_false] at member
    rcases signed with rfl | rfl <;> rcases member with rfl | rfl | rfl | rfl | rfl | rfl <;>
      simp [Text.ofString] at same
    all_goals
      rw [← same.1] at digit
      cases digit

theorem readScalar_whole {t : Text} {n : Nat} (whole : Numeral.Whole n t) (long : digitLimit < n) :
    readScalar t = .error (.tooManyDigits n) := by
  obtain ⟨sign, digits, rest, rfl, signed, rfl, all, unzeroed, ends⟩ := whole
  have given : digits ≠ [] := List.ne_nil_of_length_pos (Nat.lt_trans (by decide) long)
  obtain ⟨negative, parts⟩ := Numeral.read?_eq (sign ++ digits ++ rest)
  rw [Numeral.unsigned_digits signed given all,
    Numeral.whole?_digits given all (.inr unzeroed) (Numeral.stops_of_not_continues ends),
    Option.map_some] at parts
  simp only [Numeral.readFraction_of_not_continues ends,
    Numeral.readExponent_of_not_continues ends] at parts
  unfold readScalar
  rw [find?_constants signed given all, parts]
  simp [Numeral.value, long, Except.map]

end Json

end SandboxShell

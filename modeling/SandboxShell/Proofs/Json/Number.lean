import SandboxShell.Json.Writer
import SandboxShell.Proofs.Json.Token
import Mathlib.Data.List.DropRight

/-!
Numbers written and read back. A whole number is written in its digits, and any other number with a
point or an exponent besides; the reader takes all of it, up to a text that does not carry a number
on. It refuses none but a whole number of too many digits.
-/

namespace SandboxShell

structure IsDigits (digits : List Char) : Prop where
  given : digits ≠ []
  all : ∀ c ∈ digits, c.isDigit = true

/-- Decimal digits that can stand before a point: a zero alone, or digits that begin with none. -/
structure IsWhole (digits : List Char) : Prop extends IsDigits digits where
  proper : digits = ['0'] ∨ digits.head? ≠ some '0'

inductive IsPower : List Char → Prop where
  | signed {sign : Char} {digits : List Char} (signed : sign = '-' ∨ sign = '+')
      (size : IsDigits digits) : IsPower ('e' :: sign :: digits)

/-- What carries a whole number on: a fraction, an exponent, or both. -/
inductive CarriesOn : List Char → Prop where
  | fraction {digits : List Char} (fraction : IsDigits digits) : CarriesOn ('.' :: digits)
  | power {tail : List Char} (power : IsPower tail) : CarriesOn tail
  | both {digits tail : List Char} (fraction : IsDigits digits) (power : IsPower tail) :
      CarriesOn ('.' :: digits ++ tail)

theorem isWhole_zero : IsWhole ['0'] :=
  ⟨⟨List.cons_ne_nil _ _, List.forall_mem_singleton.2 rfl⟩, .inl rfl⟩

theorem isDigits_zeros {digits : List Char} (n : Nat) (more : IsDigits digits) :
    IsDigits (List.replicate n '0' ++ digits) where
  given := List.append_ne_nil_of_right_ne_nil _ more.given
  all := by
    refine List.forall_mem_append.2 ⟨fun c member => ?_, more.all⟩
    rw [(List.mem_replicate.1 member).2]
    decide

theorem toDigits_head {n : Nat} (positive : 0 < n) : (Nat.toDigits 10 n).head? ≠ some '0' := by
  induction n using Nat.strongRecOn with
  | ind n ih =>
    rw [Nat.toDigits_eq_if (by decide)]
    split
    · rename_i single
      have nonzero : ∀ d < 10, 0 < d → Nat.digitChar d ≠ '0' := by decide
      exact fun zero => nonzero n single positive (Option.some.inj zero)
    · have later := ih (n / 10) (by omega) (by omega)
      rwa [List.head?_append_of_ne_nil _ Nat.toDigits_ne_nil]

theorem isWhole_toDigits (n : Nat) : IsWhole (Nat.toDigits 10 n) where
  given := Nat.toDigits_ne_nil
  all _ member := Nat.isDigit_of_mem_toDigits (by decide) (by decide) member
  proper := by
    rcases Nat.eq_zero_or_pos n with rfl | positive
    · exact .inl (Nat.toDigits_zero 10)
    · exact .inr (toDigits_head positive)

namespace Binary64

theorem isPower_exponent (e : Int) : IsPower ('e' :: exponentText e) := by
  refine .signed ?_ (isDigits_zeros _ (isWhole_toDigits e.natAbs).toIsDigits)
  split
  · exact .inl rfl
  · exact .inr rfl

theorem digitsOf_isWhole (decimal : Nat × Int) :
    IsWhole (digitsOf decimal).1 ∧ ((digitsOf decimal).1 = ['0'] → (digitsOf decimal).2 = 1) := by
  obtain ⟨coefficient, exponent⟩ := decimal
  have all := (isWhole_toDigits coefficient).all
  have front : ((Nat.toDigits 10 coefficient).reverse.dropWhile (· == '0')).reverse <+:
      Nat.toDigits 10 coefficient := List.rdropWhile_prefix _ _
  unfold digitsOf
  dsimp only
  generalize kept : ((Nat.toDigits 10 coefficient).reverse.dropWhile (· == '0')).reverse = digits
    at front ⊢
  split
  · exact ⟨isWhole_zero, fun _ => rfl⟩
  · rename_i given
    have positive : 0 < coefficient := by
      refine Nat.pos_of_ne_zero fun zero => given ?_
      rw [← kept, zero, Nat.toDigits_zero]
      rfl
    have unzeroed : digits.head? ≠ some '0' := by
      obtain ⟨more, whole⟩ := front
      have head := toDigits_head positive
      rwa [← whole, List.head?_append_of_ne_nil _ given] at head
    refine ⟨⟨⟨given, fun c member => all c (front.subset member)⟩, .inr unzeroed⟩, fun zero => ?_⟩
    exact absurd (congrArg List.head? zero) unzeroed

theorem isWhole_take {digits : List Char} {n : Nat} (whole : IsWhole digits) (positive : 0 < n)
    (short : n < digits.length) : IsWhole (digits.take n) ∧ IsDigits (digits.drop n) := by
  have part {some : List Char} (given : some ≠ []) (inside : some ⊆ digits) : IsDigits some :=
    ⟨given, fun c member => whole.all c (inside member)⟩
  refine ⟨⟨part ?_ (List.take_subset _ _), .inr ?_⟩, part ?_ (List.drop_subset _ _)⟩
  · rw [ne_eq, List.take_eq_nil_iff]
    exact not_or.2 ⟨by omega, whole.given⟩
  · rcases whole.proper with rfl | unzeroed
    · rw [List.length_singleton] at short
      omega
    · rwa [List.head?_take, if_neg (by omega)]
  · rw [ne_eq, List.drop_eq_nil_iff]
    omega

theorem layOut_eq {digits : List Char} {place : Int} (whole : IsWhole digits)
    (zero : digits = ['0'] → place = 1) :
    ∃ front tail, layOut digits place = front ++ tail ∧ IsWhole front ∧ CarriesOn tail := by
  have part {some : List Char} (given : some ≠ []) (inside : some ⊆ digits) : IsDigits some :=
    ⟨given, fun c member => whole.all c (inside member)⟩
  unfold layOut
  split
  · -- one digit before the point, and an exponent
    obtain ⟨d, more, rfl⟩ := List.exists_cons_of_ne_nil whole.given
    refine ⟨[d], (if more = [] then [] else '.' :: more) ++ 'e' :: exponentText (place - 1), ?_,
      ⟨part (List.cons_ne_nil _ _) (by simp), ?_⟩, ?_⟩
    · simp
    · rcases whole.proper with same | unzeroed
      · exact .inl (congrArg (List.take 1) same)
      · exact .inr unzeroed
    · split
      · exact .power (isPower_exponent _)
      · rename_i some
        exact .both (part some (List.subset_cons_self d more)) (isPower_exponent _)
  split
  · exact ⟨['0'], '.' :: (List.replicate place.natAbs '0' ++ digits), by simp,
      isWhole_zero, .fraction (isDigits_zeros _ whole.toIsDigits)⟩
  split
  · -- zeros fill the place up to the point
    refine ⟨digits ++ List.replicate (place.natAbs - digits.length) '0', ['.', '0'], by simp,
      ⟨⟨List.append_ne_nil_of_left_ne_nil whole.given _, ?_⟩, ?_⟩, .fraction isWhole_zero.toIsDigits⟩
    · refine List.forall_mem_append.2 ⟨whole.all, fun c member => ?_⟩
      rw [(List.mem_replicate.1 member).2]
      decide
    · rcases whole.proper with rfl | unzeroed
      · rw [zero rfl]
        exact .inl rfl
      · right
        rwa [List.head?_append_of_ne_nil _ whole.given]
  · rename_i near shown inside
    have short : place.natAbs < digits.length := by omega
    have positive : 0 < place.natAbs := by omega
    obtain ⟨front, tail⟩ := isWhole_take whole positive short
    exact ⟨digits.take place.natAbs, '.' :: digits.drop place.natAbs, rfl, front, .fraction tail⟩

/-- A finite number is shown with digits before the point, and more after them. -/
theorem text_finite (negative : Bool) (mantissa : Nat) (exponent : Int) :
    ∃ sign front tail, (finite negative mantissa exponent).text = (sign ++ (front ++ tail)).map .char ∧
      (sign = [] ∨ sign = ['-']) ∧ IsWhole front ∧ CarriesOn tail := by
  obtain ⟨whole, zero⟩ := digitsOf_isWhole (shortest mantissa exponent)
  obtain ⟨front, tail, shown, isWhole, carries⟩ := layOut_eq whole zero
  refine ⟨if negative then ['-'] else [], front, tail, ?_, ?_, isWhole, carries⟩
  · rw [← shown]
    rfl
  · cases negative
    · exact .inl rfl
    · exact .inr rfl

end Binary64

namespace Json

namespace Numeral

theorem isDigit_map {digits : List Char} (isDigits : IsDigits digits) :
    ∀ s ∈ digits.map Symbol.char, isDigit s = true := by
  intro s member
  obtain ⟨c, inside, rfl⟩ := List.mem_map.1 member
  exact isDigits.all c inside

theorem span_digits {digits : List Char} (isDigits : IsDigits digits) {rest : Text}
    (stops : ∀ s ∈ rest.head?, isDigit s = false) :
    (digits.map Symbol.char ++ rest).takeWhile isDigit = digits.map Symbol.char ∧
      (digits.map Symbol.char ++ rest).dropWhile isDigit = rest := by
  have every := isDigit_map isDigits
  rw [List.takeWhile_append_of_pos every, List.dropWhile_append_of_pos every,
    takeWhile_isDigit_eq_nil stops, dropWhile_isDigit_eq_self stops, List.append_nil]
  exact ⟨rfl, rfl⟩

theorem readFraction_digits {digits : List Char} (isDigits : IsDigits digits) {rest : Text}
    (stops : ∀ s ∈ rest.head?, isDigit s = false) :
    readFraction (('.' :: digits).map .char ++ rest) = (digits.map .char, rest) := by
  obtain ⟨taken, left⟩ := span_digits isDigits stops
  show readFraction (.char '.' :: (digits.map Symbol.char ++ rest)) = _
  rw [readFraction, taken, left]
  split
  · rename_i none
    exact absurd (List.map_eq_nil_iff.1 none) isDigits.given
  · rfl

theorem readExponent_power {tail : List Char} (power : IsPower tail) {rest : Text}
    (stops : ∀ s ∈ rest.head?, isDigit s = false) :
    ∃ e, readExponent (tail.map .char ++ rest) = (some e, rest) := by
  obtain ⟨signed, isDigits⟩ := power
  rename_i sign digits
  obtain ⟨taken, left⟩ := span_digits isDigits stops
  obtain ⟨negative, split⟩ : ∃ negative, readSign (.char sign :: (digits.map .char ++ rest)) =
      (negative, digits.map .char ++ rest) := by
    rcases signed with rfl | rfl
    · exact ⟨true, rfl⟩
    · exact ⟨false, rfl⟩
  show ∃ e, readExponent (.char 'e' :: .char sign :: (digits.map Symbol.char ++ rest)) = _
  unfold readExponent
  dsimp only
  rw [if_pos (.inl rfl), split]
  dsimp only
  rw [taken, left]
  split
  · rename_i none
    exact absurd (List.map_eq_nil_iff.1 none) isDigits.given
  · exact ⟨_, rfl⟩

theorem read_carriesOn {tail : List Char} (carries : CarriesOn tail) {rest : Text}
    (ends : ¬ Continues rest) :
    (∀ s ∈ (tail.map Symbol.char ++ rest).head?, isDigit s = false) ∧
      ∃ fraction more exponent, readFraction (tail.map .char ++ rest) = (fraction, more) ∧
        readExponent more = (exponent, rest) ∧ ¬ (fraction = [] ∧ exponent = none) := by
  have stops := stops_of_not_continues ends
  have point : ∀ s ∈ some (Symbol.char '.'), isDigit s = false := by decide
  have letter : ∀ s ∈ some (Symbol.char 'e'), isDigit s = false := by decide
  cases carries with
  | @fraction digits isDigits =>
    refine ⟨point, _, _, _, readFraction_digits isDigits stops, readExponent_of_not_continues ends,
      fun none => ?_⟩
    exact isDigits.given (List.map_eq_nil_iff.1 none.1)
  | power power =>
    obtain ⟨e, read⟩ := readExponent_power power stops
    cases power with
    | signed => exact ⟨letter, [], _, _, rfl, read, fun none => nomatch none.2⟩
  | @both digits tail isDigits power =>
    obtain ⟨e, read⟩ := readExponent_power power stops
    have later : ∀ s ∈ (tail.map Symbol.char ++ rest).head?, isDigit s = false := by
      cases power with
      | signed => exact letter
    rw [List.map_append, List.append_assoc]
    exact ⟨point, _, _, _, readFraction_digits isDigits later, read, fun none => nomatch none.2⟩

variable {sign front tail : List Char} {rest : Text}

theorem signed_map (signed : sign = [] ∨ sign = ['-']) :
    sign.map Symbol.char = [] ∨ sign.map Symbol.char = [.char '-'] := by
  rcases signed with rfl | rfl
  · exact .inl rfl
  · exact .inr rfl

theorem read?_written (signed : sign = [] ∨ sign = ['-']) (whole : IsWhole front) {after : Text}
    (stops : ∀ s ∈ after.head?, isDigit s = false) :
    ∃ negative, read? ((sign ++ front).map .char ++ after) =
      some (⟨negative, front.map .char, (readFraction after).1,
        (readExponent (readFraction after).2).1⟩, (readExponent (readFraction after).2).2) := by
  have given : front.map Symbol.char ≠ [] := fun none => whole.given (List.map_eq_nil_iff.1 none)
  have all := isDigit_map whole.toIsDigits
  have proper : front.map Symbol.char = [.char '0'] ∨
      (front.map Symbol.char).head? ≠ some (.char '0') := by
    rcases whole.proper with rfl | unzeroed
    · exact .inl rfl
    · rw [List.head?_map]
      exact .inr fun zero => unzeroed (by simpa using zero)
  obtain ⟨negative, parts⟩ := read?_eq ((sign ++ front).map .char ++ after)
  rw [List.map_append, unsigned_digits (signed_map signed) given all,
    whole?_digits given all proper stops, Option.map_some] at parts
  rw [List.map_append]
  exact ⟨negative, parts⟩

end Numeral

variable {sign front tail : List Char} {rest : Text}

theorem readScalar_number (signed : sign = [] ∨ sign = ['-']) (digits : IsDigits front)
    {after more : Text} {numeral : Numeral}
    (read : Numeral.read? ((sign ++ front).map .char ++ after) = some (numeral, more)) :
    readScalar ((sign ++ front).map .char ++ after) = numeral.value.map (·, more) := by
  have given : front.map Symbol.char ≠ [] := fun none => digits.given (List.map_eq_nil_iff.1 none)
  have all := Numeral.isDigit_map digits
  unfold readScalar
  rw [List.map_append] at read ⊢
  rw [find?_constants (Numeral.signed_map signed) given all, read]

theorem readScalar_real (signed : sign = [] ∨ sign = ['-']) (whole : IsWhole front)
    (carries : CarriesOn tail) (ends : ¬ Numeral.Continues rest) :
    ∃ x, readScalar ((sign ++ (front ++ tail)).map .char ++ rest) = .ok (.real x, rest) := by
  obtain ⟨stops, fraction, more, exponent, first, second, some⟩ :=
    Numeral.read_carriesOn carries ends
  obtain ⟨negative, read⟩ := Numeral.read?_written signed whole stops
  rw [first, second] at read
  rw [← List.append_assoc, List.map_append, List.append_assoc,
    readScalar_number signed whole.toIsDigits read]
  unfold Numeral.value
  rw [if_neg some]
  exact ⟨_, rfl⟩

theorem readScalar_integer (signed : sign = [] ∨ sign = ['-']) (whole : IsWhole front)
    (short : front.length ≤ digitLimit) (ends : ¬ Numeral.Continues rest) :
    ∃ n, readScalar ((sign ++ front).map .char ++ rest) = .ok (.integer n, rest) := by
  obtain ⟨negative, read⟩ :=
    Numeral.read?_written signed whole (Numeral.stops_of_not_continues ends)
  rw [Numeral.readFraction_of_not_continues ends, Numeral.readExponent_of_not_continues ends] at read
  rw [readScalar_number signed whole.toIsDigits read]
  unfold Numeral.value
  rw [if_pos ⟨rfl, rfl⟩, List.length_map, if_neg (Nat.not_lt.2 short)]
  exact ⟨_, rfl⟩

end Json

end SandboxShell

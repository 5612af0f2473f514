import SandboxShell.Json.Reader
import SandboxShell.Json.Writer
import SandboxShell.Proofs.Utf8.RoundTrip
import Mathlib.Data.List.Basic

/-!
Strings written and read back. Each symbol is written in one of four forms, as it is, by a letter,
by its number, or by the numbers of two surrogates, and read back from it. Only pairs of surrogates
change: two that stand next to each other come back as one character. A text of characters comes
back as it was.
-/

namespace SandboxShell

namespace Symbol

theorem ofCode_code (s : Symbol) : ofCode s.code = s := by
  unfold ofCode code
  cases s with
  | char c =>
    have valid : c.toNat < 0xD800 ∨ 0xDFFF < c.toNat ∧ c.toNat < 0x110000 := c.valid
    dsimp only
    rw [dif_neg (by omega), Char.ofNat_toNat]
  | lone s =>
    dsimp only
    rw [dif_pos (by omega), lone.injEq]
    exact Fin.ext (Nat.add_sub_cancel_left _ _)

theorem code_lt (s : Symbol) : s.code < 0x110000 := by
  cases s with
  | char c =>
    have valid : c.toNat < 0xD800 ∨ 0xDFFF < c.toNat ∧ c.toNat < 0x110000 := c.valid
    show c.toNat < _
    omega
  | lone s =>
    show 0xD800 + s.val < _
    omega

end Symbol

namespace Text

theorem digits_succ {base width : Nat} (many : 1 < base) (wide : 0 < width) (n : Nat) :
    digits base (width + 1) n =
      digits base width (n / base) ++ [.char (Nat.digitChar (n % base))] := by
  obtain ⟨width, rfl⟩ : ∃ less, width = less + 1 := ⟨width - 1, by omega⟩
  unfold digits
  rw [Nat.toDigits_eq_if many]
  by_cases single : n < base
  · rw [if_pos single, Nat.div_eq_of_lt single, Nat.mod_eq_of_lt single, Nat.toDigits_zero]
    simp [List.replicate_succ']
  · rw [if_neg single]
    simp

theorem digits_one {base n : Nat} (many : 1 < base) (single : n < base) :
    digits base 1 n = [.char (Nat.digitChar n)] := by
  unfold digits
  rw [Nat.toDigits_eq_if many, if_pos single]
  rfl

theorem hex_four {n : Nat} (small : n < 0x10000) :
    hex 4 n = [.char (Nat.digitChar (n / 16 / 16 / 16)), .char (Nat.digitChar (n / 16 / 16 % 16)),
      .char (Nat.digitChar (n / 16 % 16)), .char (Nat.digitChar (n % 16))] := by
  have many : 1 < 16 := by decide
  unfold hex
  rw [digits_succ many (by decide), digits_succ many (by decide), digits_succ many (by decide),
    digits_one many (by omega)]
  rfl

end Text

namespace Json

theorem hexDigit?_digitChar :
    ∀ n < 16, hexDigit? (.char (Nat.digitChar n)) = some n := by decide

theorem unit?_hex {n : Nat} (small : n < 0x10000) :
    ∃ a b c d, Text.hex 4 n = [a, b, c, d] ∧ unit? a b c d = some n := by
  refine ⟨_, _, _, _, Text.hex_four small, ?_⟩
  unfold unit?
  rw [hexDigit?_digitChar _ (by omega), hexDigit?_digitChar _ (by omega),
    hexDigit?_digitChar _ (by omega), hexDigit?_digitChar _ (by omega)]
  show some _ = _
  rw [Option.some.injEq]
  omega

/-- The symbols that a string is spelled with: the two surrogates of a character above U+FFFF. -/
def units (s : Symbol) : Text :=
  if s.code < 0x10000 then [s]
  else [.ofCode (0xD800 + (s.code - 0x10000) / 0x400), .ofCode (0xDC00 + (s.code - 0x10000) % 0x400)]

/-- What a string comes back as: with one character for each pair of surrogates in a row. -/
def respelled (t : Text) : Text := joinPairs (t.flatMap units)

theorem stringSymbols_ne_nil {opening rest t after : Text}
    (read : stringSymbols opening rest = .ok (t, after)) : rest ≠ [] := by
  rintro rfl
  cases read

theorem stringSymbols_number {opening rest t after : Text} {n : Nat} (small : n < 0x10000)
    (read : stringSymbols opening rest = .ok (t, after)) :
    stringSymbols opening (numberEscape n ++ rest) = .ok (.ofCode n :: t, after) := by
  obtain ⟨a, b, c, d, shown, spelled⟩ := unit?_hex small
  unfold numberEscape
  rw [shown]
  show stringSymbols opening (.char '\\' :: .char 'u' :: a :: b :: c :: d :: rest) = _
  rw [stringSymbols]
  simp only [spelled]
  rw [if_neg (stringSymbols_ne_nil read), read]
  rfl

theorem stringSymbols_letter {opening rest t after : Text} {letter : Symbol} {c : Char}
    (short : shortEscape? letter = some c) (read : stringSymbols opening rest = .ok (t, after)) :
    stringSymbols opening (.char '\\' :: letter :: rest) = .ok (.char c :: t, after) := by
  have other : letter ≠ .char 'u' := by
    rintro rfl
    cases short
  rw [stringSymbols.eq_def]
  simp [other, short, read, prepend, Except.map]

theorem stringSymbols_plain {opening rest t after : Text} {s : Symbol} (shown : 0x20 ≤ s.code)
    (unquoted : s ≠ .char '"') (unescaped : s ≠ .char '\\')
    (read : stringSymbols opening rest = .ok (t, after)) :
    stringSymbols opening (s :: rest) = .ok (s :: t, after) := by
  rw [stringSymbols.eq_def]
  simp [Nat.not_lt.2 shown, read, prepend, Except.map]

theorem stringSymbols_symbol {opening rest t after : Text} (s : Symbol)
    (read : stringSymbols opening rest = .ok (t, after)) :
    stringSymbols opening (writtenSymbol s ++ rest) = .ok (units s ++ t, after) := by
  have range := s.code_lt
  unfold writtenSymbol
  dsimp only
  split
  next same => exact same ▸ stringSymbols_letter rfl read
  split
  next same => exact same ▸ stringSymbols_letter rfl read
  split
  next same => exact same ▸ stringSymbols_letter rfl read
  split
  next same => exact same ▸ stringSymbols_letter rfl read
  split
  next same => exact same ▸ stringSymbols_letter rfl read
  split
  next same => exact same ▸ stringSymbols_letter rfl read
  split
  next same => exact same ▸ stringSymbols_letter rfl read
  rename_i unquoted unescaped _ _ _ _ _
  unfold units
  split
  next shown =>
    rw [if_pos (by omega)]
    exact stringSymbols_plain shown.1 unquoted unescaped read
  split
  next small =>
    have number := stringSymbols_number small read
    rwa [Symbol.ofCode_code] at number
  next large =>
    rw [List.append_assoc]
    exact stringSymbols_number (by omega) (stringSymbols_number (by omega) read)

theorem stringSymbols_written (opening t rest : Text) :
    stringSymbols opening (t.flatMap writtenSymbol ++ .char '"' :: rest) =
      .ok (t.flatMap units, rest) := by
  induction t with
  | nil => rw [List.flatMap_nil, List.nil_append, stringSymbols, List.flatMap_nil]
  | cons s t ih =>
    rw [List.flatMap_cons, List.append_assoc]
    exact stringSymbols_symbol s ih

theorem readString_written (opening t rest : Text) :
    readString opening (t.flatMap writtenSymbol ++ .char '"' :: rest) =
      .ok (respelled t, rest) := by
  unfold readString
  rw [stringSymbols_written]
  rfl

theorem joinPairs_single {s : Symbol} (alone : ∀ u, joined? s u = none) (rest : Text) :
    joinPairs (s :: rest) = s :: joinPairs rest := by
  cases rest with
  | nil => rfl
  | cons u rest => rw [joinPairs, alone u]

theorem joined?_units {c : Char} (large : ¬ c.toNat < 0x10000) :
    ∃ high low, units (.char c) = [high, low] ∧ joined? high low = some c := by
  have valid : c.toNat < 0xD800 ∨ 0xDFFF < c.toNat ∧ c.toNat < 0x110000 := c.valid
  have code : (Symbol.char c).code = c.toNat := rfl
  unfold units
  rw [code, if_neg large]
  refine ⟨_, _, rfl, ?_⟩
  unfold Symbol.ofCode
  rw [dif_pos (by omega), dif_pos (by omega)]
  unfold joined?
  dsimp only
  rw [if_pos (by omega), Option.some.injEq]
  refine (congrArg Char.ofNat ?_).trans (Char.ofNat_toNat c)
  omega

theorem respelled_plain {t : Text} (plain : t.Plain) : respelled t = t := by
  induction t with
  | nil => rfl
  | cons s t ih =>
    have rest := ih fun other member => plain other (List.mem_cons_of_mem _ member)
    unfold respelled at rest ⊢
    rw [List.flatMap_cons]
    cases s with
    | lone s => cases plain _ List.mem_cons_self
    | char c =>
      by_cases small : c.toNat < 0x10000
      · have one : units (.char c) = [.char c] := if_pos small
        rw [one, List.singleton_append, joinPairs_single fun _ => rfl, rest]
      · obtain ⟨high, low, pair, joined⟩ := joined?_units small
        rw [pair]
        show joinPairs (high :: low :: t.flatMap units) = _
        rw [joinPairs, joined]
        exact congrArg (Symbol.char c :: ·) rest

theorem joined?_large {s u : Symbol} {c : Char} (joined : joined? s u = some c) :
    0x10000 ≤ c.toNat := by
  unfold joined? at joined
  split at joined
  · split at joined
    · rename_i high low fits
      obtain rfl := Option.some.inj joined
      rw [Utf8.toNat_ofNat (.inr (by omega))]
      omega
    · cases joined
  · cases joined

theorem joinPairs_eq_self {t : Text} (low : ∀ s ∈ joinPairs t, s.code < 0x10000) :
    joinPairs t = t := by
  fun_induction joinPairs t with
  | case1 | case2 => rfl
  | case3 s u rest c joined ih =>
    have large := joined?_large joined
    exact absurd (low _ List.mem_cons_self) (Nat.not_lt.2 large)
  | case4 s u rest alone ih =>
    rw [ih fun other member => low other (List.mem_cons_of_mem _ member)]

theorem units_of_plain {s : Symbol} (plain : (units s).Plain) : units s = [s] := by
  unfold units at plain ⊢
  have range := s.code_lt
  split
  · rfl
  · rename_i large
    have high := plain _ (by rw [if_neg large]; exact List.mem_cons_self)
    unfold Symbol.ofCode at high
    rw [dif_pos (by omega)] at high
    cases high

/-- A name that comes back with characters of ASCII alone is that name. -/
theorem eq_of_respelled {t name : Text} (plain : ∀ s ∈ name, s.isChar = true ∧ s.code < 0x10000)
    (same : respelled t = name) : t = name := by
  unfold respelled at same
  have kept := joinPairs_eq_self (same ▸ fun s member => (plain s member).2)
  rw [same] at kept
  have single : t.flatMap units = t.flatMap fun s => [s] := by
    refine List.flatMap_congr fun s member => units_of_plain fun u spelled => ?_
    exact (plain u (kept ▸ List.mem_flatMap.2 ⟨s, member, spelled⟩)).1
  rw [kept, single, List.flatMap_singleton']

end Json

end SandboxShell

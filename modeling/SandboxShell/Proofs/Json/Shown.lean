import SandboxShell.Proofs.Json.ReadBack
import SandboxShell.Proofs.Utf8.LineEnd

/-!
What is written for a value is ASCII that shows: it has no line ends that could be unified, and it
is a text of characters, so that it comes out of a file as it went in.
-/

namespace SandboxShell

namespace Json

def isShown : Symbol → Bool
  | .char c => 0x20 ≤ c.toNat && c.toNat < 0x7F
  | .lone _ => false

def Shown (t : Text) : Prop := ∀ s ∈ t, isShown s = true

theorem Shown.append {t u : Text} (one : Shown t) (two : Shown u) : Shown (t ++ u) :=
  List.forall_mem_append.2 ⟨one, two⟩

theorem Shown.plain {t : Text} (shown : Shown t) : t.Plain := by
  intro s member
  cases s with
  | char c => rfl
  | lone s => cases shown _ member

theorem Shown.unifyNewlines {t : Text} (shown : Shown t) : t.unifyNewlines = t := by
  have plain : Symbol.char '\r' ∉ t := fun member => absurd (shown _ member) (by decide)
  have whole := Text.unifyNewlines_append plain []
  rwa [List.append_nil, Text.unifyNewlines, List.append_nil] at whole

theorem isShown_of_isDigit {c : Char} (digit : c.isDigit = true) : isShown (.char c) = true := by
  simp only [Char.isDigit, Bool.and_eq_true, decide_eq_true_eq, UInt32.le_iff_toNat_le] at digit
  have low : 48 ≤ c.toNat := digit.1
  have high : c.toNat ≤ 57 := digit.2
  simp only [isShown, Bool.and_eq_true, decide_eq_true_eq]
  omega

theorem shown_digits {digits : List Char} (isDigits : IsDigits digits) :
    Shown (digits.map .char) := by
  intro s member
  obtain ⟨c, inside, rfl⟩ := List.mem_map.1 member
  exact isShown_of_isDigit (isDigits.all c inside)

theorem shown_power {tail : List Char} (power : IsPower tail) : Shown (tail.map .char) := by
  obtain ⟨signed, size⟩ := power
  refine List.forall_mem_cons.2 ⟨rfl, List.forall_mem_cons.2 ⟨?_, shown_digits size⟩⟩
  rcases signed with rfl | rfl <;> rfl

theorem shown_carriesOn {tail : List Char} (carries : CarriesOn tail) :
    Shown (tail.map .char) := by
  cases carries with
  | fraction fraction => exact List.forall_mem_cons.2 ⟨rfl, shown_digits fraction⟩
  | power power => exact shown_power power
  | both fraction power =>
    rw [List.map_append]
    exact Shown.append (List.forall_mem_cons.2 ⟨rfl, shown_digits fraction⟩) (shown_power power)

theorem shown_real (x : Binary64) : Shown (writtenReal x) := by
  cases x with
  | undefined => exact fun s member => by revert s member; decide
  | infinite negative => cases negative <;> exact fun s member => by revert s member; decide
  | finite negative mantissa exponent =>
    obtain ⟨sign, front, tail, shown, signed, whole, carries⟩ :=
      Binary64.text_finite negative mantissa exponent
    unfold writtenReal
    dsimp only
    rw [shown, List.map_append, List.map_append]
    refine Shown.append ?_ (Shown.append (shown_digits whole.toIsDigits) (shown_carriesOn carries))
    rcases signed with rfl | rfl
    · exact fun _ member => nomatch member
    · exact List.forall_mem_singleton.2 rfl

theorem shown_numberEscape {n : Nat} (small : n < 0x10000) : Shown (numberEscape n) := by
  have digit : ∀ n < 16, isShown (.char (Nat.digitChar n)) = true := by decide
  have mark : Shown (Text.ofString "\\u") := by unfold Shown; decide
  unfold numberEscape
  rw [Text.hex_four small]
  refine mark.append ?_
  simp only [Shown, List.mem_cons, List.not_mem_nil, or_false, forall_eq_or_imp, forall_eq]
  exact ⟨digit _ (by omega), digit _ (by omega), digit _ (by omega), digit _ (by omega)⟩

theorem shown_symbol (s : Symbol) : Shown (writtenSymbol s) := by
  have range := s.code_lt
  have letter (t : Text) (shown : t.all isShown = true) : Shown t := List.all_eq_true.1 shown
  unfold writtenSymbol
  dsimp only
  iterate 7
    split
    · exact letter _ (by decide)
  split
  next plain =>
    refine List.forall_mem_singleton.2 ?_
    cases s with
    | char c => simpa [isShown, Symbol.code] using plain
    | lone s =>
      have code : (Symbol.lone s).code = 0xD800 + s.val := rfl
      omega
  split
  next small => exact shown_numberEscape small
  next => exact (shown_numberEscape (by omega)).append (shown_numberEscape (by omega))

theorem shown_string (t : Text) : Shown (writtenString t) := by
  have quote : Shown (Text.ofString "\"") := List.forall_mem_singleton.2 rfl
  refine (quote.append fun u member => ?_).append quote
  obtain ⟨s, -, written⟩ := List.mem_flatMap.1 member
  exact shown_symbol s u written

theorem shown_join {parts : List Text} (each : ∀ t ∈ parts, Shown t) :
    Shown (Text.join ", " parts) := by
  induction parts with
  | nil => exact fun _ member => nomatch member
  | cons t parts ih =>
    have here := each t List.mem_cons_self
    cases parts with
    | nil => exact here
    | cons u parts =>
      have comma : Shown (Text.ofString ", ") := by unfold Shown; decide
      exact (here.append comma).append
        (ih fun other member => each other (List.mem_cons_of_mem _ member))

theorem writtenItems_eq (items : List Json) : writtenItems items = items.map written := by
  induction items with
  | nil => rfl
  | cons item items ih => exact congrArg (written item :: ·) ih

theorem writtenMembers_eq (members : List (Text × Json)) : writtenMembers members =
    members.map fun member => writtenString member.1 ++ ": " ++ written member.2 := by
  induction members with
  | nil => rfl
  | cons member members ih => exact congrArg (_ :: ·) ih

theorem shown_written {room : Nat} {v : Json} (within : Within room v) : Shown (written v) := by
  have mark (c : Char) (shown : isShown (.char c) = true) : Shown [.char c] :=
    List.forall_mem_singleton.2 shown
  induction within with
  | null => unfold Shown; decide
  | bool b => cases b <;> (unfold Shown; decide)
  | integer n =>
    have digits := shown_digits (isWhole_toDigits n.natAbs).toIsDigits
    cases n with
    | ofNat n => exact digits
    | negSucc n => exact (mark '-' rfl).append digits
  | real x => exact shown_real x
  | string t => exact shown_string t
  | @array room items inside ih =>
    unfold written
    refine ((mark '[' rfl).append (shown_join fun t member => ?_)).append (mark ']' rfl)
    rw [writtenItems_eq] at member
    obtain ⟨v, listed, rfl⟩ := List.mem_map.1 member
    exact ih v listed
  | @object room members inside ih =>
    have colon : Shown (Text.ofString ": ") := by unfold Shown; decide
    unfold written
    refine ((mark '\x7b' rfl).append (shown_join fun t member => ?_)).append (mark '\x7d' rfl)
    rw [writtenMembers_eq] at member
    obtain ⟨pair, listed, rfl⟩ := List.mem_map.1 member
    exact ((shown_string pair.1).append colon).append (ih pair listed)

end Json

end SandboxShell

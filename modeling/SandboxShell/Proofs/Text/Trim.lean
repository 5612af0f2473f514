import SandboxShell.Proofs.Utf8.RoundTrip
import SandboxShell.Text.Blank
import Mathlib.Data.List.DropRight

/-!
Trimming. What is left of a text when its blanks at both ends are taken off is the only part that
stands between blanks and neither begins nor ends with one. The same holds of bytes, where the
blanks are sequences of one, two or three bytes and what stands between them need not be UTF-8.
-/

namespace SandboxShell

namespace Text

theorem exists_blanks_around (t : Text) : ∃ lead trail : Text,
    (∀ s ∈ lead, s.isBlank = true) ∧ (∀ s ∈ trail, s.isBlank = true) ∧
      t = lead ++ t.trim ++ trail := by
  refine ⟨t.takeWhile Symbol.isBlank, (t.dropWhile Symbol.isBlank).rtakeWhile Symbol.isBlank,
    fun s member => List.mem_takeWhile_imp member, fun s member => List.mem_rtakeWhile_imp member,
    ?_⟩
  have inner : t.trim ++ (t.dropWhile Symbol.isBlank).rtakeWhile Symbol.isBlank =
      t.dropWhile Symbol.isBlank := List.rdropWhile_append_rtakeWhile
  rw [List.append_assoc, inner, List.takeWhile_append_dropWhile]

theorem head?_trim {t : Text} {s : Symbol} (first : t.trim.head? = some s) : s.isBlank = false := by
  obtain ⟨rest, split⟩ := List.head?_eq_some_iff.1 first
  obtain ⟨trail, whole⟩ : t.trim <+: t.dropWhile Symbol.isBlank := List.rdropWhile_prefix _ _
  have front := List.head?_dropWhile_not Symbol.isBlank t
  rw [← whole, split] at front
  exact front

theorem getLast?_trim {t : Text} {s : Symbol} (last : t.trim.getLast? = some s) :
    s.isBlank = false := by
  rw [trim, List.getLast?_reverse] at last
  have front := List.head?_dropWhile_not Symbol.isBlank (t.dropWhile Symbol.isBlank).reverse
  rw [last] at front
  exact front

theorem dropWhile_isBlank_of_head? {t : Text} (front : ∀ s, t.head? = some s → s.isBlank = false) :
    t.dropWhile Symbol.isBlank = t := by
  cases t with
  | nil => rfl
  | cons s rest =>
    apply List.dropWhile_cons_of_neg
    rw [front s rfl]
    decide

theorem trim_eq_of_blanks {lead core trail : Text} (leading : ∀ s ∈ lead, s.isBlank = true)
    (trailing : ∀ s ∈ trail, s.isBlank = true)
    (front : ∀ s, core.head? = some s → s.isBlank = false)
    (back : ∀ s, core.getLast? = some s → s.isBlank = false) :
    (lead ++ core ++ trail).trim = core := by
  have trailing' : ∀ s ∈ trail.reverse, s.isBlank = true :=
    fun s member => trailing s (List.mem_reverse.1 member)
  have backwards : core.reverse.dropWhile Symbol.isBlank = core.reverse := by
    apply dropWhile_isBlank_of_head?
    intro s first
    rw [List.head?_reverse] at first
    exact back s first
  rw [trim, List.append_assoc, List.dropWhile_append_of_pos leading]
  cases core with
  | nil =>
    rw [List.nil_append, List.dropWhile_eq_nil_iff.2 trailing]
    rfl
  | cons s rest =>
    have starts : ∀ x, (s :: rest ++ trail).head? = some x → x.isBlank = false := front
    rw [dropWhile_isBlank_of_head? starts, List.reverse_append,
      List.dropWhile_append_of_pos trailing', backwards, List.reverse_reverse]

theorem trim_eq_nil {t : Text} (blanks : ∀ s ∈ t, s.isBlank = true) : t.trim = [] := by
  rw [trim, List.dropWhile_eq_nil_iff.2 blanks]
  rfl

end Text

namespace Utf8

def BlankBytes (bytes : Bytes) : Prop :=
  ∃ blanks : List Char, (∀ c ∈ blanks, isBlankCode c.toNat = true) ∧
    bytes = blanks.flatMap String.utf8EncodeChar

/-- `core` is what remains of `bytes` without the longest runs of blanks at both ends. -/
structure TrimmedBytes (bytes core : Bytes) : Prop where
  around : ∃ lead trail, BlankBytes lead ∧ BlankBytes trail ∧ bytes = lead ++ core ++ trail
  front : ∀ c, isBlankCode c.toNat = true → ¬String.utf8EncodeChar c <+: core
  back : ∀ c, isBlankCode c.toNat = true → ¬String.utf8EncodeChar c <:+ core

theorem written_map_char (chars : List Char) :
    written (chars.map .char) = chars.flatMap String.utf8EncodeChar := by
  induction chars with
  | nil => rfl
  | cons c chars ih => rw [List.map_cons, written_char, ih, List.flatMap_cons]

theorem isBlankCode_le {n : Nat} (blank : isBlankCode n = true) : n ≤ 0x3000 := by
  simp only [isBlankCode, Bool.or_eq_true, Bool.and_eq_true, decide_eq_true_eq, beq_iff_eq] at blank
  omega

theorem plain_of_blanks {t : Text} (blanks : ∀ s ∈ t, s.isBlank = true) : t.Plain := by
  intro s member
  cases s with
  | char c => rfl
  | lone n =>
    have low := isBlankCode_le (n := (Symbol.lone n).code) (blanks _ member)
    simp only [Symbol.code] at low
    omega

theorem blankBytes_iff (bytes : Bytes) :
    BlankBytes bytes ↔ ∃ t : Text, (∀ s ∈ t, s.isBlank = true) ∧ bytes = written t := by
  constructor
  · rintro ⟨chars, blanks, rfl⟩
    refine ⟨chars.map .char, ?_, (written_map_char chars).symm⟩
    intro s member
    obtain ⟨c, inside, rfl⟩ := List.mem_map.1 member
    exact blanks c inside
  · rintro ⟨t, blanks, rfl⟩
    induction t with
    | nil => exact ⟨[], by simp, rfl⟩
    | cons s t ih =>
      obtain ⟨blank, others⟩ := List.forall_mem_cons.1 blanks
      obtain ⟨chars, charBlanks, bytes⟩ := ih others
      cases s with
      | lone n => cases plain_of_blanks blanks _ List.mem_cons_self
      | char c =>
        refine ⟨c :: chars, List.forall_mem_cons.2 ⟨blank, charBlanks⟩, ?_⟩
        rw [written_char, bytes, List.flatMap_cons]

theorem decode_append_written (front : Bytes) {t : Text} (chars : t.Plain) :
    decode (front ++ written t) = decode front ++ t := by
  have back := decode_chars_append t chars []
  rw [List.append_nil, decode, List.append_nil] at back
  rw [decode_append, back]
  intro b first
  cases t with
  | nil => cases first
  | cons s t =>
    cases s with
    | lone n => cases chars _ List.mem_cons_self
    | char c =>
      obtain ⟨lead, more, sequence, begins, -⟩ := encodeChar_eq_cons c
      rw [written_char, sequence] at first
      exact Option.some.inj first ▸ begins

theorem head?_decode {bytes : Bytes} {c : Char} (first : (decode bytes).head? = some (.char c)) :
    String.utf8EncodeChar c <+: bytes := by
  obtain ⟨rest, split⟩ := List.head?_eq_some_iff.1 first
  refine ⟨written rest, ?_⟩
  rw [← written_char, ← split, written_decode]

theorem getLast?_decode {bytes : Bytes} {c : Char}
    (last : (decode bytes).getLast? = some (.char c)) : String.utf8EncodeChar c <:+ bytes := by
  obtain ⟨front, split⟩ := List.getLast?_eq_some_iff.1 last
  refine ⟨written front, ?_⟩
  rw [← written_decode bytes, split, written_append, written_char, written_nil, List.append_nil]

theorem trimmedBytes_iff {bytes core : Bytes} :
    TrimmedBytes bytes core ↔ core = written (decode bytes).trim := by
  have isChar {s : Symbol} (blank : s.isBlank = true) : ∃ c, s = .char c := by
    cases s with
    | char c => exact ⟨c, rfl⟩
    | lone n => cases plain_of_blanks (List.forall_mem_singleton.2 blank) _ List.mem_cons_self
  constructor
  · rintro ⟨⟨lead, trail, leading, trailing, rfl⟩, front, back⟩
    obtain ⟨before, beforeBlanks, rfl⟩ := (blankBytes_iff lead).1 leading
    obtain ⟨after, afterBlanks, rfl⟩ := (blankBytes_iff trail).1 trailing
    rw [List.append_assoc, decode_chars_append _ (plain_of_blanks beforeBlanks),
      decode_append_written core (plain_of_blanks afterBlanks), ← List.append_assoc,
      Text.trim_eq_of_blanks beforeBlanks afterBlanks, written_decode]
    · intro s first
      by_contra blank
      rw [Bool.not_eq_false] at blank
      obtain ⟨c, rfl⟩ := isChar blank
      exact front c blank (head?_decode first)
    · intro s last
      by_contra blank
      rw [Bool.not_eq_false] at blank
      obtain ⟨c, rfl⟩ := isChar blank
      exact back c blank (getLast?_decode last)
  · rintro rfl
    obtain ⟨before, after, beforeBlanks, afterBlanks, split⟩ := (decode bytes).exists_blanks_around
    have whole : bytes = written before ++ written (decode bytes).trim ++ written after := by
      conv_lhs => rw [← written_decode bytes, split]
      rw [written_append, written_append]
    -- the slice need not be UTF-8, but cutting the blanks off it leaves its reading alone
    have reread : decode (written (decode bytes).trim) = (decode bytes).trim := by
      have read := congrArg decode whole
      rw [List.append_assoc, decode_chars_append _ (plain_of_blanks beforeBlanks),
        decode_append_written _ (plain_of_blanks afterBlanks), ← List.append_assoc] at read
      exact List.append_cancel_left (List.append_cancel_right (read.symm.trans split))
    refine ⟨⟨_, _, (blankBytes_iff _).2 ⟨before, beforeBlanks, rfl⟩,
      (blankBytes_iff _).2 ⟨after, afterBlanks, rfl⟩, whole⟩, ?_, ?_⟩
    · rintro c blank ⟨rest, sequence⟩
      rw [← sequence, decode_encodeChar_append] at reread
      have shown := Text.head?_trim (t := decode bytes) (s := .char c) (by rw [← reread]; rfl)
      rw [show Symbol.isBlank (.char c) = true from blank] at shown
      cases shown
    · rintro c blank ⟨rest, sequence⟩
      have single : rest ++ String.utf8EncodeChar c = rest ++ written [.char c] := by simp
      have plain : Text.Plain [.char c] := by simp [Text.Plain, Symbol.isChar]
      rw [← sequence, single, decode_append_written rest plain] at reread
      have shown := Text.getLast?_trim (t := decode bytes) (s := .char c)
        (by rw [← reread, List.getLast?_append]; rfl)
      rw [show Symbol.isBlank (.char c) = true from blank] at shown
      cases shown

end Utf8

end SandboxShell

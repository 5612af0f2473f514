import SandboxShell.Proofs.Utf8.Sequence
import Mathlib.Data.List.TakeWhile

/-!
Reading and writing UTF-8. Bytes that are read leniently are written as they were, whether they are
UTF-8 or not, and the strict reading accepts exactly what texts of characters are written as. No
sequence reaches over a byte that does not continue one, so the lenient reading can be cut there.
-/

namespace SandboxShell

/-- A text of characters alone, without lone surrogates. -/
def Text.Plain (t : Text) : Prop := ∀ s ∈ t, s.isChar = true

theorem Text.plain_ofString (s : String) : (ofString s).Plain := by
  intro x member
  obtain ⟨c, -, rfl⟩ := List.mem_map.1 member
  rfl

namespace Utf8

theorem decode_encodeChar_append (c : Char) (rest : Bytes) :
    decode (String.utf8EncodeChar c ++ rest) = .char c :: decode rest := by
  obtain ⟨first, more, sequence, -⟩ := encodeChar_eq_cons c
  have found := next?_encodeChar c rest
  rw [sequence, List.cons_append] at found ⊢
  rw [decode]
  split
  · rename_i d later again
    rw [found] at again
    obtain ⟨rfl, rfl⟩ := Prod.mk.inj (Option.some.inj again)
    rfl
  · rename_i none
    rw [found] at none
    cases none

theorem decode_outside {b : UInt8} {rest : Bytes} (outside : next? (b :: rest) = none) :
    decode (b :: rest) = stray b :: decode rest := by
  rw [decode]
  split
  · rename_i c more found
    rw [outside] at found
    cases found
  · rfl

theorem le_of_outside {b : UInt8} {rest : Bytes} (outside : next? (b :: rest) = none) :
    0x80 ≤ b.toNat := by
  by_contra ascii
  have alone := following_eq_zero.2 (show b.toNat < 0x80 by omega)
  simp only [next?, alone] at outside
  cases outside

def written (t : Text) : Bytes := t.flatMap fun s => (symbolBytes? s).getD []

@[simp] theorem written_nil : written [] = [] := rfl

@[simp] theorem written_char (c : Char) (t : Text) :
    written (.char c :: t) = String.utf8EncodeChar c ++ written t := rfl

@[simp] theorem written_append (t u : Text) : written (t ++ u) = written t ++ written u :=
  List.flatMap_append

theorem stray_writable {b : UInt8} (high : 0x80 ≤ b.toNat) : symbolBytes? (stray b) = some [b] := by
  have low := b.toNat_lt
  simp only [stray, symbolBytes?]
  rw [if_pos (by omega), Nat.add_sub_cancel_left, UInt8.ofNat_toNat]

/-- Bytes read leniently are written as they were, whether they are UTF-8 or not. -/
theorem written_decode (bytes : Bytes) : written (decode bytes) = bytes := by
  induction bytes using sequences with
  | nil => simp [decode]
  | sequence c rest ih => rw [decode_encodeChar_append, written_char, ih]
  | outside b rest outside ih =>
    have bytes := stray_writable (le_of_outside outside)
    rw [decode_outside outside]
    change (symbolBytes? (stray b)).getD [] ++ written (decode rest) = b :: rest
    rw [bytes, ih]
    rfl

theorem decode_writable (bytes : Bytes) : ∀ s ∈ decode bytes, isWritable s = true := by
  induction bytes using sequences with
  | nil => simp [decode]
  | sequence c rest ih =>
    rw [decode_encodeChar_append]
    exact List.forall_mem_cons.2 ⟨rfl, ih⟩
  | outside b rest outside ih =>
    rw [decode_outside outside]
    refine List.forall_mem_cons.2 ⟨?_, ih⟩
    rw [isWritable, stray_writable (le_of_outside outside)]
    rfl

theorem encode_of_writable {t : Text} (writable : ∀ s ∈ t, isWritable s = true) :
    encode t = .ok (written t) := by
  have sound : t.dropWhile isWritable = [] := List.dropWhile_eq_nil_iff.2 writable
  unfold encode
  rw [sound]
  rfl

theorem writable_of_encode {t : Text} {content : Bytes} (encoded : encode t = .ok content) :
    ∀ s ∈ t, isWritable s = true := by
  unfold encode at encoded
  split at encoded
  · rename_i lone
    apply List.dropWhile_eq_nil_iff.1
    cases faulty : t.dropWhile isWritable with
    | nil => rfl
    | cons s more =>
      have front := List.head?_dropWhile_not isWritable t
      rw [faulty] at front lone
      cases s with
      | char c => cases front
      | lone n => simp [List.takeWhile, Symbol.isChar] at lone
  · cases encoded

theorem encode_eq_ok_iff {t : Text} {content : Bytes} :
    encode t = .ok content ↔ (∀ s ∈ t, isWritable s = true) ∧ content = written t := by
  constructor
  · intro encoded
    have writable := writable_of_encode encoded
    rw [encode_of_writable writable] at encoded
    exact ⟨writable, (Except.ok.inj encoded).symm⟩
  · rintro ⟨writable, rfl⟩
    exact encode_of_writable writable

/-- A byte outside every sequence stays outside before a byte that continues none. -/
theorem outside_append {b : UInt8} {rest back : Bytes} (outside : next? (b :: rest) = none)
    (boundary : ∀ x, back.head? = some x → isContinuation x = false) :
    next? (b :: (rest ++ back)) = none := by
  cases found : next? (b :: (rest ++ back)) with
  | none => rfl
  | some read =>
    obtain ⟨c, more⟩ := read
    have inside (later : Bytes) : b :: rest ≠ String.utf8EncodeChar c ++ later := by
      intro same
      rw [same, next?_encodeChar] at outside
      cases outside
    have split := eq_of_next? found
    rw [← List.cons_append, List.append_eq_append_iff] at split
    -- a new sequence would end in front of the boundary, or take in the byte behind it
    obtain ⟨extra, sequence, reached⟩ | ⟨later, whole, -⟩ := split
    · cases extra with
      | nil => exact absurd (by rw [sequence]; simp) (inside [])
      | cons x extra =>
        obtain ⟨first, continued, bytes, -, continuation⟩ := encodeChar_eq_cons c
        rw [bytes, List.cons_append] at sequence
        have tail := (List.cons.inj sequence).2
        have member : x ∈ continued := by rw [tail]; simp
        have refused := boundary x (by rw [reached]; rfl)
        rw [continuation x member] at refused
        cases refused
    · exact absurd whole (inside later)

/-- No sequence reaches over a byte that does not continue one. -/
theorem decode_append (front back : Bytes)
    (boundary : ∀ b, back.head? = some b → isContinuation b = false) :
    decode (front ++ back) = decode front ++ decode back := by
  induction front using sequences with
  | nil => simp [decode]
  | sequence c rest ih =>
    rw [List.append_assoc, decode_encodeChar_append, decode_encodeChar_append, ih]
    rfl
  | outside b rest outside ih =>
    have still := outside_append outside boundary
    rw [List.cons_append, decode_outside still, decode_outside outside, ih]
    rfl

theorem decode_chars_append (t : Text) (chars : t.Plain) (rest : Bytes) :
    decode (written t ++ rest) = t ++ decode rest := by
  induction t with
  | nil => rfl
  | cons s t ih =>
    obtain ⟨char, others⟩ := List.forall_mem_cons.1 chars
    cases s with
    | lone n => cases char
    | char c =>
      rw [written_char, List.append_assoc, decode_encodeChar_append, ih others]
      rfl

theorem decodeStrict_eq_ok_iff {bytes : Bytes} {t : Text} :
    decodeStrict bytes = .ok t ↔ t.Plain ∧ bytes = written t := by
  have opened : decodeStrict bytes = .ok t ↔
      (decode bytes).Plain ∧ decode bytes = t := by
    unfold decodeStrict
    by_cases chars : (decode bytes).all Symbol.isChar = true
    · simp only [chars, if_true, Except.ok.injEq]
      exact ⟨fun same => ⟨List.all_eq_true.1 chars, same⟩, fun both => both.2⟩
    · simp only [chars, if_false, reduceCtorEq, false_iff]
      exact fun both => chars (List.all_eq_true.2 both.1)
  rw [opened]
  constructor
  · rintro ⟨chars, rfl⟩
    exact ⟨chars, (written_decode bytes).symm⟩
  · rintro ⟨chars, rfl⟩
    have back := decode_chars_append t chars []
    rw [List.append_nil, decode, List.append_nil] at back
    rw [back]
    exact ⟨chars, rfl⟩

end Utf8

end SandboxShell

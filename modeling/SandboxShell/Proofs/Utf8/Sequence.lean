import SandboxShell.Text.Utf8
import Mathlib.Tactic.SplitIfs

/-!
Sequences of UTF-8. What a character is written as is what stands in front of the bytes when it is
read back, and the other way round, whatever bytes come after it; so any bytes can be taken apart
into sequences and bytes that begin none, which is the induction that every law of the lenient
reading goes by. Only the first byte of a sequence can begin one.
-/

namespace SandboxShell

namespace Utf8

theorem toNat_ofNat {n : Nat} (valid : n < 0xD800 ∨ 0xDFFF < n ∧ n < 0x110000) :
    (Char.ofNat n).toNat = n := by
  rw [Char.ofNat, dif_pos valid]
  rfl

theorem byte_toNat {n : Nat} (small : n < 0x100) : (UInt8.ofNat n).toNat = n :=
  UInt8.toNat_ofNat_of_lt small

theorem isContinuation_iff (b : UInt8) :
    isContinuation b = true ↔ 0x80 ≤ b.toNat ∧ b.toNat < 0xC0 := by
  simp [isContinuation]

theorem isSecond_iff (lead b : UInt8) :
    isSecond lead b = true ↔ 0x80 ≤ b.toNat ∧ b.toNat < 0xC0 ∧
      (lead.toNat = 0xE0 → 0xA0 ≤ b.toNat) ∧ (lead.toNat = 0xED → b.toNat < 0xA0) ∧
      (lead.toNat = 0xF0 → 0x90 ≤ b.toNat) ∧ (lead.toNat = 0xF4 → b.toNat < 0x90) := by
  have same (x : UInt8) : lead = x ↔ lead.toNat = x.toNat := UInt8.toNat_inj.symm
  simp only [isSecond, isContinuation, same]
  have values : (0xE0 : UInt8).toNat = 0xE0 ∧ (0xED : UInt8).toNat = 0xED ∧
    (0xF0 : UInt8).toNat = 0xF0 ∧ (0xF4 : UInt8).toNat = 0xF4 := by decide
  obtain ⟨e0, ed, f0, f4⟩ := values
  rw [e0, ed, f0, f4]
  split_ifs <;> simp <;> omega

theorem following_eq_zero {a : UInt8} : following a = some 0 ↔ a.toNat < 0x80 := by
  unfold following
  split_ifs <;> simp <;> omega

theorem following_eq_one {a : UInt8} :
    following a = some 1 ↔ 0xC2 ≤ a.toNat ∧ a.toNat < 0xE0 := by
  unfold following
  split_ifs <;> simp <;> omega

theorem following_eq_two {a : UInt8} :
    following a = some 2 ↔ 0xE0 ≤ a.toNat ∧ a.toNat < 0xF0 := by
  unfold following
  split_ifs <;> simp <;> omega

theorem following_eq_three {a : UInt8} :
    following a = some 3 ↔ 0xF0 ≤ a.toNat ∧ a.toNat < 0xF5 := by
  unfold following
  split_ifs <;> simp <;> omega

theorem encodeChar_ofNat {n : Nat} (valid : n < 0xD800 ∨ 0xDFFF < n ∧ n < 0x110000) :
    String.utf8EncodeChar (Char.ofNat n) =
      if n < 0x80 then [UInt8.ofNat n]
      else if n < 0x800 then [UInt8.ofNat (n / 0x40 + 0xC0), UInt8.ofNat (n % 0x40 + 0x80)]
      else if n < 0x10000 then
        [UInt8.ofNat (n / 0x1000 + 0xE0), UInt8.ofNat (n / 0x40 % 0x40 + 0x80),
          UInt8.ofNat (n % 0x40 + 0x80)]
      else
        [UInt8.ofNat (n / 0x40000 + 0xF0), UInt8.ofNat (n / 0x1000 % 0x40 + 0x80),
          UInt8.ofNat (n / 0x40 % 0x40 + 0x80), UInt8.ofNat (n % 0x40 + 0x80)] := by
  have code : (Char.ofNat n).val.toNat = n := toNat_ofNat valid
  unfold String.utf8EncodeChar
  simp only [code]
  split_ifs with one _ _ two _ _ three
  any_goals omega
  · rfl
  · rw [Nat.mod_eq_of_lt (show n / 64 < 0x20 by omega)]
  · rw [Nat.mod_eq_of_lt (show n / 4096 < 0x10 by omega)]
  · rw [Nat.mod_eq_of_lt (show n / 262144 < 8 by omega)]

theorem next?_encodeChar (c : Char) (rest : Bytes) :
    next? (String.utf8EncodeChar c ++ rest) = some (c, rest) := by
  have valid : c.toNat < 0xD800 ∨ 0xDFFF < c.toNat ∧ c.toNat < 0x110000 := c.valid
  have back {n : Nat} (same : n = c.toNat) : Char.ofNat n = c := same ▸ Char.ofNat_toNat c
  rw [← Char.ofNat_toNat c, encodeChar_ofNat valid]
  generalize c.toNat = n at valid back
  split_ifs with one two three
  · have lead := byte_toNat (show n < 0x100 by omega)
    have first := following_eq_zero.2 (show (UInt8.ofNat n).toNat < 0x80 by omega)
    simp only [List.cons_append, List.nil_append, next?, first, lead]
  · have lead := byte_toNat (show n / 0x40 + 0xC0 < 0x100 by omega)
    have last := byte_toNat (show n % 0x40 + 0x80 < 0x100 by omega)
    have first := following_eq_one.2 (by rw [lead]; omega)
    have second := (isSecond_iff (UInt8.ofNat (n / 0x40 + 0xC0))
      (UInt8.ofNat (n % 0x40 + 0x80))).2 (by rw [lead, last]; omega)
    simp only [List.cons_append, List.nil_append, next?, first, second, lead, last, if_true]
    exact congrArg (fun code => some (Char.ofNat code, rest)) (by omega)
  · have lead := byte_toNat (show n / 0x1000 + 0xE0 < 0x100 by omega)
    have middle := byte_toNat (show n / 0x40 % 0x40 + 0x80 < 0x100 by omega)
    have last := byte_toNat (show n % 0x40 + 0x80 < 0x100 by omega)
    have first := following_eq_two.2 (by rw [lead]; omega)
    have second := (isSecond_iff (UInt8.ofNat (n / 0x1000 + 0xE0))
      (UInt8.ofNat (n / 0x40 % 0x40 + 0x80))).2 (by rw [lead, middle]; omega)
    have third := (isContinuation_iff (UInt8.ofNat (n % 0x40 + 0x80))).2 (by omega)
    simp only [List.cons_append, List.nil_append, next?, first, second, third, lead, middle, last,
      and_self, if_true]
    exact congrArg (fun code => some (Char.ofNat code, rest)) (by omega)
  · have lead := byte_toNat (show n / 0x40000 + 0xF0 < 0x100 by omega)
    have upper := byte_toNat (show n / 0x1000 % 0x40 + 0x80 < 0x100 by omega)
    have middle := byte_toNat (show n / 0x40 % 0x40 + 0x80 < 0x100 by omega)
    have last := byte_toNat (show n % 0x40 + 0x80 < 0x100 by omega)
    have first := following_eq_three.2 (by rw [lead]; omega)
    have second := (isSecond_iff (UInt8.ofNat (n / 0x40000 + 0xF0))
      (UInt8.ofNat (n / 0x1000 % 0x40 + 0x80))).2 (by rw [lead, upper]; omega)
    have third := (isContinuation_iff (UInt8.ofNat (n / 0x40 % 0x40 + 0x80))).2 (by omega)
    have fourth := (isContinuation_iff (UInt8.ofNat (n % 0x40 + 0x80))).2 (by omega)
    simp only [List.cons_append, List.nil_append, next?, first, second, third, fourth, lead, upper,
      middle, last, and_self, if_true]
    exact congrArg (fun code => some (Char.ofNat code, rest)) (by omega)

theorem ofNat_eq {b : UInt8} {n : Nat} (same : n = b.toNat) : UInt8.ofNat n = b := by
  rw [same, UInt8.ofNat_toNat]

theorem eq_of_next? {bytes rest : Bytes} {c : Char} (found : next? bytes = some (c, rest)) :
    bytes = String.utf8EncodeChar c ++ rest := by
  unfold next? at found
  split at found
  · simp at found
  · rename_i a tail
    split at found
    · rename_i more zero
      have bound := following_eq_zero.1 zero
      obtain ⟨rfl, rfl⟩ := Prod.mk.inj (Option.some.inj found)
      rw [encodeChar_ofNat (by omega), if_pos (by omega), ofNat_eq rfl]
      rfl
    · rename_i b more one
      have bound := following_eq_one.1 one
      split at found
      · rename_i second
        have second := (isSecond_iff a b).1 second
        obtain ⟨rfl, rfl⟩ := Prod.mk.inj (Option.some.inj found)
        rw [encodeChar_ofNat (by omega), if_neg (by omega), if_pos (by omega),
          ofNat_eq (b := a) (by omega), ofNat_eq (b := b) (by omega)]
        rfl
      · simp at found
    · rename_i b c more two
      have bound := following_eq_two.1 two
      split at found
      · rename_i others
        have second := (isSecond_iff a b).1 others.1
        have third := (isContinuation_iff c).1 others.2
        obtain ⟨rfl, rfl⟩ := Prod.mk.inj (Option.some.inj found)
        rw [encodeChar_ofNat (by omega), if_neg (by omega), if_neg (by omega), if_pos (by omega),
          ofNat_eq (b := a) (by omega), ofNat_eq (b := b) (by omega), ofNat_eq (b := c) (by omega)]
        rfl
      · simp at found
    · rename_i b c d more three
      have bound := following_eq_three.1 three
      split at found
      · rename_i others
        have second := (isSecond_iff a b).1 others.1
        have third := (isContinuation_iff c).1 others.2.1
        have fourth := (isContinuation_iff d).1 others.2.2
        obtain ⟨rfl, rfl⟩ := Prod.mk.inj (Option.some.inj found)
        rw [encodeChar_ofNat (by omega), if_neg (by omega), if_neg (by omega), if_neg (by omega),
          ofNat_eq (b := a) (by omega), ofNat_eq (b := b) (by omega), ofNat_eq (b := c) (by omega),
          ofNat_eq (b := d) (by omega)]
        rfl
      · simp at found
    · simp at found

/-- Only the first byte of a sequence can begin one. -/
theorem encodeChar_eq_cons (c : Char) :
    ∃ first more, String.utf8EncodeChar c = first :: more ∧ isContinuation first = false ∧
      ∀ b ∈ more, isContinuation b = true := by
  have valid : c.toNat < 0xD800 ∨ 0xDFFF < c.toNat ∧ c.toNat < 0x110000 := c.valid
  have later (n : Nat) : isContinuation (UInt8.ofNat (n % 0x40 + 0x80)) = true := by
    have value := byte_toNat (show n % 0x40 + 0x80 < 0x100 by omega)
    exact (isContinuation_iff _).2 (by omega)
  have front {n : Nat} (small : n < 0x100) (other : n < 0x80 ∨ 0xC0 ≤ n) :
      isContinuation (UInt8.ofNat n) = false := by
    rw [Bool.eq_false_iff, Ne, isContinuation_iff, byte_toNat small]
    omega
  rw [← Char.ofNat_toNat c, encodeChar_ofNat valid]
  generalize c.toNat = n at valid
  split_ifs with one two three
  · exact ⟨_, [], rfl, front (by omega) (by omega), by simp⟩
  · exact ⟨_, _, rfl, front (by omega) (by omega), List.forall_mem_singleton.2 (later _)⟩
  · exact ⟨_, _, rfl, front (by omega) (by omega), List.forall_mem_cons.2
      ⟨later _, List.forall_mem_singleton.2 (later _)⟩⟩
  · exact ⟨_, _, rfl, front (by omega) (by omega), List.forall_mem_cons.2
      ⟨later _, List.forall_mem_cons.2 ⟨later _, List.forall_mem_singleton.2 (later _)⟩⟩⟩

/-- Bytes are taken apart the way they are read: a sequence in front, or a byte that begins none. -/
@[elab_as_elim]
theorem sequences {motive : Bytes → Prop} (nil : motive [])
    (sequence : ∀ c rest, motive rest → motive (String.utf8EncodeChar c ++ rest))
    (outside : ∀ b rest, next? (b :: rest) = none → motive rest → motive (b :: rest))
    (bytes : Bytes) : motive bytes := by
  induction size : bytes.length using Nat.strongRecOn generalizing bytes with
  | ind size ih =>
    subst size
    cases bytes with
    | nil => exact nil
    | cons b rest =>
      cases found : next? (b :: rest) with
      | none => exact outside b rest found (ih _ (by simp) rest rfl)
      | some read =>
        -- a sequence has a byte at least, so what stands behind it is shorter
        obtain ⟨c, more⟩ := read
        rw [eq_of_next? found]
        exact sequence c more (ih _ (next?_shorter found) more rfl)

end Utf8

end SandboxShell

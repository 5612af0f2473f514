import SandboxShell.Proofs.Utf8.RoundTrip

/-!
Line ends in bytes. A carriage return, and a line feed after it, can be turned into one line feed
before the bytes are read or after: both are sequences of one byte, and no other sequence holds
such a byte.
-/

namespace SandboxShell

namespace Text

theorem unifyNewlines_cons {s : Symbol} (other : s ≠ .char '\r') (rest : Text) :
    unifyNewlines (s :: rest) = s :: unifyNewlines rest := by
  rw [unifyNewlines.eq_def]
  split
  all_goals simp_all

theorem unifyNewlines_append {front : Text} (plain : .char '\r' ∉ front) (back : Text) :
    unifyNewlines (front ++ back) = front ++ unifyNewlines back := by
  induction front with
  | nil => rfl
  | cons s front ih =>
    rw [List.mem_cons, not_or] at plain
    rw [List.cons_append, unifyNewlines_cons (Ne.symm plain.1), ih plain.2]
    rfl

theorem unifyNewlines_return {rest : Text} (other : rest.head? ≠ some (.char '\n')) :
    unifyNewlines (.char '\r' :: rest) = .char '\n' :: unifyNewlines rest := by
  rw [unifyNewlines.eq_def]
  split
  all_goals simp_all

end Text

namespace Utf8

/-- One line feed in place of each carriage return, together with a line feed that follows it. -/
def unifiedBytes : Bytes → Bytes
  | [] => []
  | 0x0D :: 0x0A :: rest => 0x0A :: unifiedBytes rest
  | 0x0D :: rest => 0x0A :: unifiedBytes rest
  | b :: rest => b :: unifiedBytes rest

theorem unifiedBytes_cons {b : UInt8} (other : b ≠ 0x0D) (rest : Bytes) :
    unifiedBytes (b :: rest) = b :: unifiedBytes rest := by
  rw [unifiedBytes.eq_def]
  split
  all_goals simp_all

theorem unifiedBytes_append {front : Bytes} (plain : 0x0D ∉ front) (back : Bytes) :
    unifiedBytes (front ++ back) = front ++ unifiedBytes back := by
  induction front with
  | nil => rfl
  | cons b front ih =>
    rw [List.mem_cons, not_or] at plain
    rw [List.cons_append, unifiedBytes_cons (Ne.symm plain.1), ih plain.2]
    rfl

theorem unifiedBytes_return {rest : Bytes} (other : rest.head? ≠ some 0x0A) :
    unifiedBytes (0x0D :: rest) = 0x0A :: unifiedBytes rest := by
  rw [unifiedBytes.eq_def]
  split
  all_goals simp_all

theorem decode_return (rest : Bytes) : decode (0x0D :: rest) = .char '\r' :: decode rest :=
  decode_encodeChar_append '\r' rest

theorem decode_feed (rest : Bytes) : decode (0x0A :: rest) = .char '\n' :: decode rest :=
  decode_encodeChar_append '\n' rest

theorem return_not_mem_decode {bytes : Bytes} (plain : 0x0D ∉ bytes) :
    Symbol.char '\r' ∉ decode bytes := by
  intro member
  apply plain
  rw [← written_decode bytes]
  exact List.mem_flatMap.2 ⟨_, member, List.mem_singleton.2 rfl⟩

theorem head?_decode_ne_feed {bytes : Bytes} (other : bytes.head? ≠ some 0x0A) :
    (decode bytes).head? ≠ some (.char '\n') := by
  intro first
  obtain ⟨later, split⟩ := List.head?_eq_some_iff.1 first
  have bytes_eq := written_decode bytes
  rw [split, written_char] at bytes_eq
  exact other (by rw [← bytes_eq]; rfl)

/-- Unifying line ends before or after reading gives the same text: neither of their bytes is part
of a longer sequence. -/
theorem decode_unifiedBytes (bytes : Bytes) :
    decode (unifiedBytes bytes) = (decode bytes).unifyNewlines := by
  induction size : bytes.length using Nat.strongRecOn generalizing bytes with
  | ind size ih =>
    subst size
    -- cut at the first carriage return: nothing before it changes, and less is left behind it
    by_cases returns : (0x0D : UInt8) ∈ bytes
    · obtain ⟨front, back, rfl, plain⟩ := List.eq_append_cons_of_mem returns
      have cut (b : UInt8) (rest : Bytes) (single : isContinuation b = false) :
          decode (front ++ b :: rest) = decode front ++ decode (b :: rest) :=
        decode_append front (b :: rest) (fun x first => Option.some.inj first ▸ single)
      have unify := Text.unifyNewlines_append (return_not_mem_decode plain)
      rw [unifiedBytes_append plain, cut 0x0D back rfl, unify, decode_return]
      by_cases feed : back.head? = some 0x0A
      · obtain ⟨rest, rfl⟩ := List.head?_eq_some_iff.1 feed
        rw [unifiedBytes, cut 0x0A _ rfl, decode_feed, decode_feed, Text.unifyNewlines,
          ih _ (by simp; omega) rest rfl]
      · rw [unifiedBytes_return feed, cut 0x0A _ rfl, decode_feed,
          Text.unifyNewlines_return (head?_decode_ne_feed feed), ih _ (by simp; omega) back rfl]
    · have bytesStay := unifiedBytes_append returns []
      have textStays := Text.unifyNewlines_append (return_not_mem_decode returns) []
      rw [List.append_nil] at bytesStay textStays
      rw [bytesStay, textStays, unifiedBytes, Text.unifyNewlines, List.append_nil, List.append_nil]

end Utf8

end SandboxShell

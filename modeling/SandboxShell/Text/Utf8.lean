import SandboxShell.Text.Basic

/-!
UTF-8, read in two ways. The strict reading refuses bytes that are no UTF-8 and says which and why.
The lenient reading takes every byte that begins no well-formed sequence as a lone surrogate of its
own, U+DC80 to U+DCFF, and writing turns these back into their bytes; so a file read leniently comes
out byte for byte as it went in. Any other lone surrogate has no written form.
-/

namespace SandboxShell

namespace Utf8

def following (lead : UInt8) : Option Nat :=
  if lead.toNat < 0x80 then some 0
  else if lead.toNat < 0xC2 then none
  else if lead.toNat < 0xE0 then some 1
  else if lead.toNat < 0xF0 then some 2
  else if lead.toNat < 0xF5 then some 3
  else none

def isContinuation (b : UInt8) : Bool := 0x80 ≤ b.toNat && b.toNat < 0xC0

/-- Whether `b` can stand second after `lead`. Four first bytes narrow the choice: it leaves out
sequences longer than needed, surrogates, and code points above U+10FFFF. -/
def isSecond (lead b : UInt8) : Bool :=
  if lead = 0xE0 then 0xA0 ≤ b.toNat && b.toNat < 0xC0
  else if lead = 0xED then 0x80 ≤ b.toNat && b.toNat < 0xA0
  else if lead = 0xF0 then 0x90 ≤ b.toNat && b.toNat < 0xC0
  else if lead = 0xF4 then 0x80 ≤ b.toNat && b.toNat < 0x90
  else isContinuation b

def next? : Bytes → Option (Char × Bytes)
  | [] => none
  | a :: rest =>
    match following a, rest with
    | some 0, rest => some (Char.ofNat a.toNat, rest)
    | some 1, b :: rest =>
      if isSecond a b then
        some (Char.ofNat ((a.toNat - 0xC0) * 0x40 + (b.toNat - 0x80)), rest)
      else none
    | some 2, b :: c :: rest =>
      if isSecond a b ∧ isContinuation c then
        some (Char.ofNat ((a.toNat - 0xE0) * 0x1000 + (b.toNat - 0x80) * 0x40 + (c.toNat - 0x80)),
          rest)
      else none
    | some 3, b :: c :: d :: rest =>
      if isSecond a b ∧ isContinuation c ∧ isContinuation d then
        some (Char.ofNat ((a.toNat - 0xF0) * 0x40000 + (b.toNat - 0x80) * 0x1000 +
          (c.toNat - 0x80) * 0x40 + (d.toNat - 0x80)), rest)
      else none
    | _, _ => none

theorem next?_shorter {bytes rest : Bytes} {c : Char} (found : next? bytes = some (c, rest)) :
    rest.length < bytes.length := by
  unfold next? at found
  split at found
  · simp at found
  · split at found <;> (try split at found) <;> simp_all <;> omega

def stray (b : UInt8) : Symbol :=
  .lone ⟨0x400 + b.toNat, by have := b.toNat_lt; omega⟩

def decode : Bytes → Text
  | [] => []
  | b :: rest =>
    match _found : next? (b :: rest) with
    | some (c, more) => .char c :: decode more
    | none => stray b :: decode rest
termination_by bytes => bytes.length
decreasing_by
  · exact next?_shorter _found
  · simp

inductive Reason where
  | start
  | continuation
  | ending
  deriving DecidableEq, Repr

/-- The first bytes of a file that are no UTF-8: `width` of them from `position` on, beginning with
`byte`. -/
structure Fault where
  position : Nat
  width : Nat
  byte : UInt8
  reason : Reason
  deriving DecidableEq, Repr

/-- The fault of bytes that begin with no well-formed sequence. As much of a sequence as was
well-formed is at fault, or its first byte if that can begin none. -/
def fault (position : Nat) : Bytes → Fault
  | [] => ⟨position, 0, 0, .ending⟩
  | a :: rest =>
    if following a = none then ⟨position, 1, a, .start⟩
    else
      let width := match rest with
        | [] => 1
        | b :: more => if isSecond a b then 2 + (more.takeWhile isContinuation).length else 1
      ⟨position, width, a, if width = rest.length + 1 then .ending else .continuation⟩

/-- How many bytes a symbol takes when it is written as its code point asks. -/
def symbolWidth : Symbol → Nat
  | .char c => c.utf8Size
  | .lone _ => 3

def width : Text → Nat
  | [] => 0
  | s :: rest => symbolWidth s + width rest

def decodeStrict (bytes : Bytes) : Except Fault Text :=
  let t := decode bytes
  if t.all Symbol.isChar then .ok t
  else
    let sound := width (t.takeWhile Symbol.isChar)
    .error (fault sound (bytes.drop sound))

def Reason.message : Reason → Text
  | .start => "invalid start byte"
  | .continuation => "invalid continuation byte"
  | .ending => "unexpected end of data"

def Fault.message (f : Fault) : Text :=
  let place :=
    if f.width = 1 then
      "byte 0x" ++ Text.hex 2 f.byte.toNat ++ " in position " ++ Text.ofNat f.position
    else
      "bytes in position " ++ Text.ofNat f.position ++ "-" ++
        Text.ofNat (f.position + f.width - 1)
  "'utf-8' codec can't decode " ++ place ++ ": " ++ f.reason.message

/-- The bytes a symbol is written as; a surrogate that stands for no byte has none. -/
def symbolBytes? : Symbol → Option Bytes
  | .char c => some (String.utf8EncodeChar c)
  | .lone s =>
    if 0x480 ≤ s.val ∧ s.val < 0x500 then some [UInt8.ofNat (s.val - 0x400)] else none

def isWritable (s : Symbol) : Bool := (symbolBytes? s).isSome

/-- The first symbols of a text that have no written form: `symbol` at `position`, and with it all
surrogates in a row from there on, `count` in number. -/
structure WriteFault where
  position : Nat
  count : Nat
  symbol : Symbol
  deriving DecidableEq, Repr

def encode (t : Text) : Except WriteFault Bytes :=
  match (t.dropWhile isWritable).takeWhile (!·.isChar) with
  | [] => .ok (t.flatMap fun s => (symbolBytes? s).getD [])
  | s :: more => .error ⟨(t.takeWhile isWritable).length, more.length + 1, s⟩

def WriteFault.message (f : WriteFault) : Text :=
  let place :=
    if f.count = 1 then
      "character '\\u" ++ Text.hex 4 f.symbol.code ++ "' in position " ++ Text.ofNat f.position
    else
      "characters in position " ++ Text.ofNat f.position ++ "-" ++
        Text.ofNat (f.position + f.count - 1)
  "'utf-8' codec can't encode " ++ place ++ ": surrogates not allowed"

end Utf8

end SandboxShell

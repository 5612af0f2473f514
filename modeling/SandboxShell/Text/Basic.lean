/-!
Text as a list of symbols. A symbol is a character or a surrogate code point that stands alone:
the names, paths and arguments of a session hold characters only, but a configuration can spell a
lone surrogate, and a startup file with bytes that are no UTF-8 is read with one symbol for each
such byte. Cutting a text at marks and gluing the pieces are inverse, which is how entries of
`PATH`, components of a path and `NAME=VALUE` pairs are read and written.
-/

namespace SandboxShell

/-- A character, or the lone surrogate with code point `0xD800 + s`. -/
inductive Symbol where
  | char (c : Char)
  | lone (s : Fin 0x800)
  deriving DecidableEq, Repr, Inhabited

abbrev Text := List Symbol

abbrev Bytes := List UInt8

namespace Symbol

def code : Symbol → Nat
  | .char c => c.toNat
  | .lone s => 0xD800 + s.val

def ofCode (n : Nat) : Symbol :=
  if h : 0xD800 ≤ n ∧ n < 0xE000 then .lone ⟨n - 0xD800, by omega⟩ else .char (Char.ofNat n)

def isChar : Symbol → Bool
  | .char _ => true
  | .lone _ => false

end Symbol

namespace Text

def ofString (s : String) : Text := s.toList.map .char

instance : Coe String Text := ⟨ofString⟩

def ofNat (n : Nat) : Text := (Nat.toDigits 10 n).map .char

def ofInt : Int → Text
  | .ofNat n => ofNat n
  | .negSucc n => .char '-' :: ofNat (n + 1)

/-- The digits of a number, lower-case above nine, filled with zeros to a given width. -/
def digits (base width n : Nat) : Text :=
  let shown := Nat.toDigits base n
  (List.replicate (width - shown.length) '0' ++ shown).map .char

def hex (width n : Nat) : Text := digits 16 width n

/-- The pieces between the symbols that `mark` accepts: the first one, and one more for each mark.
-/
def cut (mark : Symbol → Bool) : Text → Text × List Text
  | [] => ([], [])
  | s :: rest =>
    let (piece, pieces) := cut mark rest
    if mark s then ([], piece :: pieces) else (s :: piece, pieces)

def pieces (mark : Symbol → Bool) (t : Text) : List Text :=
  (cut mark t).1 :: (cut mark t).2

def splitOn (c : Char) (t : Text) : List Text := t.pieces (· == .char c)

def join (separator : Text) : List Text → Text
  | [] => []
  | [t] => t
  | t :: u :: rest => t ++ separator ++ join separator (u :: rest)

theorem join_cons (separator t : Text) {rest : List Text} (more : rest ≠ []) :
    join separator (t :: rest) = t ++ separator ++ join separator rest := by
  cases rest with
  | nil => exact absurd rfl more
  | cons u rest => rfl

theorem join_splitOn (c : Char) (t : Text) : join [.char c] (t.splitOn c) = t := by
  induction t with
  | nil => rfl
  | cons s rest ih =>
    simp only [splitOn, pieces, cut] at ih ⊢
    by_cases isMark : s = .char c
    · simp [isMark, join_cons, ih]
    · simp only [beq_iff_eq, isMark, if_false]
      cases later : (cut (fun x => x == .char c) rest).2 with
      | nil => simp_all [join]
      | cons piece pieces => simp_all [join_cons]

theorem cut_append {mark : Symbol → Bool} {t : Text} (unmarked : ∀ s ∈ t, mark s = false)
    (rest : Text) : cut mark (t ++ rest) = (t ++ (cut mark rest).1, (cut mark rest).2) := by
  induction t with
  | nil => rfl
  | cons s t ih =>
    have here := unmarked s (by simp)
    have there := ih fun x member => unmarked x (by simp [member])
    simp [cut, here, there]

/-- What stands before the first `c`, or the whole text. -/
def before (c : Char) (t : Text) : Text := t.takeWhile (· != .char c)

def after (c : Char) (t : Text) : Text := (t.dropWhile (· != .char c)).drop 1

def startsWith (t start : Text) : Bool := start.isPrefixOf t

def replaceChar (c : Char) (substitute : Text) (t : Text) : Text :=
  t.flatMap fun s => if s = .char c then substitute else [s]

/-- One newline in place of each carriage return, together with a newline that follows it. -/
def unifyNewlines : Text → Text
  | [] => []
  | .char '\r' :: .char '\n' :: rest => .char '\n' :: unifyNewlines rest
  | .char '\r' :: rest => .char '\n' :: unifyNewlines rest
  | s :: rest => s :: unifyNewlines rest

end Text

end SandboxShell

import SandboxShell.Json.Value
import SandboxShell.Table

/-!
Reading JSON. A reader takes the text from some place on and gives the value that stands in front
together with the text after it. A complaint keeps the text from the place of the fault on, so
that the place can be told by its distance from the end. Beyond the standard, `NaN` and the two
infinities are numbers, and a lone surrogate can be spelled by its escape; of two members of one
name the later one counts. Whole numbers may not have too many digits, and lists and objects may
not stand inside more others than there is room for; either ends the reading where it is met.
-/

namespace SandboxShell

namespace Json

inductive Complaint where
  | byteOrderMark
  | value
  | name
  | colon
  | comma
  | openString
  | control
  | escape
  | codeEscape
  | extra
  deriving DecidableEq, Repr

inductive Container where
  | array
  | object
  deriving DecidableEq, Repr

/-- Why reading ends without a value: a complaint about the text from some place on, a whole number
of more digits than are read, or a container inside more others than are read. -/
inductive Fault where
  | malformed (complaint : Complaint) (unread : Text)
  | tooManyDigits (count : Nat)
  | tooDeep (opened : Container)
  deriving DecidableEq, Repr

def digitLimit : Nat := 4300

def isGap (s : Symbol) : Bool :=
  s = .char ' ' || s = .char '\t' || s = .char '\n' || s = .char '\r'

def skipGap (t : Text) : Text := t.dropWhile isGap

def isDigit : Symbol → Bool
  | .char c => c.isDigit
  | .lone _ => false

def ofDigits (digits : Text) : Nat := digits.foldl (fun n s => 10 * n + (s.code - 48)) 0

structure Numeral where
  negative : Bool
  whole : Text
  fraction : Text
  exponent : Option Int

namespace Numeral

/-- The digits before the point: a zero alone, or digits that begin with none. -/
def whole? : Text → Option (Text × Text)
  | .char '0' :: rest => some ([.char '0'], rest)
  | s :: rest =>
    if isDigit s then some (s :: rest.takeWhile isDigit, rest.dropWhile isDigit) else none
  | [] => none

/-- The digits after a point; a point without digits belongs to no number. -/
def readFraction : Text → Text × Text
  | .char '.' :: rest =>
    match rest.takeWhile isDigit with
    | [] => ([], .char '.' :: rest)
    | digits => (digits, rest.dropWhile isDigit)
  | t => ([], t)

def readSign : Text → Bool × Text
  | .char '-' :: rest => (true, rest)
  | .char '+' :: rest => (false, rest)
  | t => (false, t)

def readExponent (t : Text) : Option Int × Text :=
  match t with
  | s :: rest =>
    if s = .char 'e' ∨ s = .char 'E' then
      let (negative, more) := readSign rest
      match more.takeWhile isDigit with
      | [] => (none, t)
      | digits =>
        let size : Int := ofDigits digits
        (some (if negative then -size else size), more.dropWhile isDigit)
    else (none, t)
  | [] => (none, t)

def read? (t : Text) : Option (Numeral × Text) :=
  let (negative, unsigned) : Bool × Text := match t with
    | .char '-' :: rest => (true, rest)
    | _ => (false, t)
  (whole? unsigned).map fun (whole, rest) =>
    let (fraction, rest) := readFraction rest
    let (exponent, rest) := readExponent rest
    (⟨negative, whole, fraction, exponent⟩, rest)

/-- The value of a numeral. Without fraction and exponent it is a whole number, which may not have
too many digits. -/
def value (n : Numeral) : Except Fault Json :=
  if n.fraction = [] ∧ n.exponent = none then
    if digitLimit < n.whole.length then .error (.tooManyDigits n.whole.length)
    else
      let size : Int := ofDigits n.whole
      .ok (.integer (if n.negative then -size else size))
  else
    .ok (.real (.ofDecimal n.negative (ofDigits (n.whole ++ n.fraction))
      (n.exponent.getD 0 - n.fraction.length)))

end Numeral

def hexDigit? : Symbol → Option Nat
  | .lone _ => none
  | .char c =>
    let n := c.toNat
    if 48 ≤ n ∧ n < 58 then some (n - 48)
    else if 65 ≤ n ∧ n < 71 then some (n - 55)
    else if 97 ≤ n ∧ n < 103 then some (n - 87)
    else none

def unit? (a b c d : Symbol) : Option Nat := do
  let a ← hexDigit? a
  let b ← hexDigit? b
  let c ← hexDigit? c
  let d ← hexDigit? d
  return ((a * 16 + b) * 16 + c) * 16 + d

def joined? : Symbol → Symbol → Option Char
  | .lone high, .lone low =>
    if high.val < 0x400 ∧ 0x400 ≤ low.val then
      some (Char.ofNat (0x10000 + high.val * 0x400 + (low.val - 0x400)))
    else none
  | _, _ => none

/-- One character in place of each high surrogate and low surrogate next to each other. -/
def joinPairs : Text → Text
  | [] => []
  | [s] => [s]
  | s :: t :: rest =>
    match joined? s t with
    | some c => .char c :: joinPairs rest
    | none => s :: joinPairs (t :: rest)

def shortEscape? : Symbol → Option Char
  | .char '"' => some '"'
  | .char '\\' => some '\\'
  | .char '/' => some '/'
  | .char 'b' => some '\x08'
  | .char 'f' => some '\x0c'
  | .char 'n' => some '\n'
  | .char 'r' => some '\r'
  | .char 't' => some '\t'
  | _ => none

def prepend (s : Symbol) : Except Fault (Text × Text) → Except Fault (Text × Text) :=
  Except.map fun (t, rest) => (s :: t, rest)

/-- The symbols up to the closing quote of a string, with one for each escape; `opening` is the text
from its opening quote on. No escape by number may end the text. -/
def stringSymbols (opening : Text) : Text → Except Fault (Text × Text)
  | [] => .error (.malformed .openString opening)
  | .char '"' :: rest => .ok ([], rest)
  | .char '\\' :: escaped =>
    match escaped with
    | [] => .error (.malformed .openString opening)
    | .char 'u' :: a :: b :: c :: d :: rest =>
      match unit? a b c d with
      | some n =>
        if rest = [] then .error (.malformed .codeEscape escaped)
        else prepend (.ofCode n) (stringSymbols opening rest)
      | none => .error (.malformed .codeEscape escaped)
    | .char 'u' :: _ => .error (.malformed .codeEscape escaped)
    | s :: rest =>
      match shortEscape? s with
      | some c => prepend (.char c) (stringSymbols opening rest)
      | none => .error (.malformed .escape (.char '\\' :: escaped))
  | s :: rest =>
    if s.code < 0x20 then .error (.malformed .control (s :: rest))
    else prepend s (stringSymbols opening rest)

def readString (opening rest : Text) : Except Fault (Text × Text) :=
  (stringSymbols opening rest).map fun (t, after) => (joinPairs t, after)

def constants : List (Text × Json) :=
  [("null", .null), ("true", .bool true), ("false", .bool false), ("NaN", .real .undefined),
    ("Infinity", .real (.infinite false)), ("-Infinity", .real (.infinite true))]

def readScalar (t : Text) : Except Fault (Json × Text) :=
  match constants.find? fun entry => t.startsWith entry.1 with
  | some (word, value) => .ok (value, t.drop word.length)
  | none =>
    match Numeral.read? t with
    | some (numeral, rest) => numeral.value.map (·, rest)
    | none => .error (.malformed .value t)

mutual

/-- The value in front of a text, with room for so many containers inside one another. The readers
call each other at most `fuel` deep. -/
def readValue : Nat → Nat → Text → Except Fault (Json × Text)
  | 0, _, t => .error (.malformed .value t)
  | fuel + 1, room, t =>
    match t, room with
    | .char '"' :: rest, _ => (readString t rest).map fun (s, after) => (.string s, after)
    | .char '[' :: _, 0 => .error (.tooDeep .array)
    | .char '[' :: rest, room + 1 =>
      match skipGap rest with
      | .char ']' :: after => .ok (.array [], after)
      | inside => readItems fuel room [] inside
    | .char '\x7b' :: _, 0 => .error (.tooDeep .object)
    | .char '\x7b' :: rest, room + 1 =>
      match skipGap rest with
      | .char '\x7d' :: after => .ok (.object [], after)
      | inside => readMembers fuel room [] inside
    | _, _ => readScalar t

/-- The items of a list from one of them on; `done` are the items before it, the last one first. -/
def readItems : Nat → Nat → List Json → Text → Except Fault (Json × Text)
  | 0, _, _, t => .error (.malformed .value t)
  | fuel + 1, room, done, t => do
    let (item, rest) ← readValue fuel room t
    match skipGap rest with
    | .char ']' :: after => .ok (.array (item :: done).reverse, after)
    | .char ',' :: more => readItems fuel room (item :: done) (skipGap more)
    | other => .error (.malformed .comma other)

def readMembers : Nat → Nat → List (Text × Json) → Text → Except Fault (Json × Text)
  | 0, _, _, t => .error (.malformed .name t)
  | fuel + 1, room, done, t =>
    match t with
    | .char '"' :: rest => do
      let (name, rest) ← readString t rest
      match skipGap rest with
      | .char ':' :: rest =>
        let (value, rest) ← readValue fuel room (skipGap rest)
        let done := Entries.put name value done
        match skipGap rest with
        | .char '\x7d' :: after => .ok (.object done, after)
        | .char ',' :: more => readMembers fuel room done (skipGap more)
        | other => .error (.malformed .comma other)
      | other => .error (.malformed .colon other)
    | _ => .error (.malformed .name t)

end

/-- The value that a whole text stands for, with room for so many containers inside one another. A
symbol gives rise to two nested calls at most, one for the items after it and one for the first of
them, which bounds the fuel. -/
def read (room : Nat) (t : Text) : Except Fault Json :=
  match t with
  | .char '\uFEFF' :: _ => .error (.malformed .byteOrderMark t)
  | _ => do
    let (value, rest) ← readValue (2 * t.length + 1) room (skipGap t)
    match skipGap rest with
    | [] => .ok value
    | extra => .error (.malformed .extra extra)

def Complaint.message : Complaint → Text
  | .byteOrderMark => "Unexpected UTF-8 BOM (decode using utf-8-sig)"
  | .value => "Expecting value"
  | .name => "Expecting property name enclosed in double quotes"
  | .colon => "Expecting ':' delimiter"
  | .comma => "Expecting ',' delimiter"
  | .openString => "Unterminated string starting at"
  | .control => "Invalid control character at"
  | .escape => "Invalid \\escape"
  | .codeEscape => "Invalid \\uXXXX escape"
  | .extra => "Extra data"

/-- A place in a text, given by what stands before it: its line and column, from one on, and its
index, from zero on. -/
def placeMessage (read : Text) : Text :=
  let line := read.count (.char '\n') + 1
  let column := (read.reverse.takeWhile (· != .char '\n')).length + 1
  "line " ++ Text.ofNat line ++ " column " ++ Text.ofNat column ++ " (char " ++
    Text.ofNat read.length ++ ")"

def Complaint.messageAt (complaint : Complaint) (t unread : Text) : Text :=
  complaint.message ++ ": " ++ placeMessage (t.take (t.length - unread.length))

def tooManyDigitsMessage (count : Nat) : Text :=
  "Exceeds the limit (" ++ Text.ofNat digitLimit ++
    " digits) for integer string conversion: value has " ++ Text.ofNat count ++
    " digits; use sys.set_int_max_str_digits() to increase the limit"

def Container.name : Container → Text
  | .array => "array"
  | .object => "object"

def tooDeepMessage (opened : Container) : Text :=
  "maximum recursion depth exceeded while decoding a JSON " ++ opened.name ++
    " from a unicode string"

end Json

end SandboxShell

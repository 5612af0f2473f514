import SandboxShell.Json.Value

/-!
Writing JSON in ASCII alone. Quotes and backslashes are escaped, control characters by a letter
where there is one, and every other symbol that is not shown in ASCII by its number, one above
U+FFFF by the two surrogates that stand for it.
-/

namespace SandboxShell

namespace Json

def numberEscape (n : Nat) : Text := "\\u" ++ Text.hex 4 n

def writtenSymbol (s : Symbol) : Text :=
  let n := s.code
  if s = .char '"' then "\\\""
  else if s = .char '\\' then "\\\\"
  else if s = .char '\n' then "\\n"
  else if s = .char '\r' then "\\r"
  else if s = .char '\t' then "\\t"
  else if s = .char '\x08' then "\\b"
  else if s = .char '\x0c' then "\\f"
  else if 0x20 ≤ n ∧ n < 0x7F then [s]
  else if n < 0x10000 then numberEscape n
  else
    numberEscape (0xD800 + (n - 0x10000) / 0x400) ++ numberEscape (0xDC00 + (n - 0x10000) % 0x400)

def writtenString (t : Text) : Text := "\"" ++ t.flatMap writtenSymbol ++ "\""

def writtenReal : Binary64 → Text
  | .finite negative mantissa exponent => (Binary64.finite negative mantissa exponent).text
  | .infinite negative => if negative then "-Infinity" else "Infinity"
  | .undefined => "NaN"

mutual

def written : Json → Text
  | .null => "null"
  | .bool b => if b then "true" else "false"
  | .integer n => Text.ofInt n
  | .real x => writtenReal x
  | .string t => writtenString t
  | .array items => "[" ++ Text.join ", " (writtenItems items) ++ "]"
  | .object members => .char '\x7b' :: Text.join ", " (writtenMembers members) ++ [.char '\x7d']

def writtenItems : List Json → List Text
  | [] => []
  | item :: rest => written item :: writtenItems rest

def writtenMembers : List (Text × Json) → List Text
  | [] => []
  | (name, value) :: rest => (writtenString name ++ ": " ++ written value) :: writtenMembers rest

end

end Json

end SandboxShell

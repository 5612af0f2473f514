import SandboxShell.Text.Printable

/-!
Quoted text, as it appears in messages: between single quotes, or between double quotes if it
holds a single quote and no double one, with a backslash before each backslash and each quote of
that kind, and with escapes for the symbols that are not shown.
-/

namespace SandboxShell

namespace Text

def quoteFor (t : Text) : Char :=
  if Symbol.char '\'' ∈ t ∧ Symbol.char '"' ∉ t then '"' else '\''

/-- The escape of a symbol that is not shown: the shortest of three forms that holds its code. -/
def escapeCode (n : Nat) : Text :=
  if n < 0x100 then "\\x" ++ hex 2 n
  else if n < 0x10000 then "\\u" ++ hex 4 n
  else "\\U" ++ hex 8 n

def quoteSymbol (quote : Char) (s : Symbol) : Text :=
  if s = .char '\\' then "\\\\"
  else if s = .char quote then [.char '\\', s]
  else if s = .char '\n' then "\\n"
  else if s = .char '\r' then "\\r"
  else if s = .char '\t' then "\\t"
  else if s.isPrintable then [s]
  else escapeCode s.code

def quoted (t : Text) : Text :=
  let quote := quoteFor t
  .char quote :: t.flatMap (quoteSymbol quote) ++ [.char quote]

def quotedList (ts : List Text) : Text :=
  "[" ++ join ", " (ts.map quoted) ++ "]"

end Text

end SandboxShell

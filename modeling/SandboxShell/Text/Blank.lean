import SandboxShell.Text.Basic

/-!
Blanks are the characters that separate words: the white space of Unicode and the four information
separators U+001C to U+001F. A text can be trimmed of the blanks at both ends and cut into its
words.
-/

namespace SandboxShell

def isBlankCode (n : Nat) : Bool :=
  (0x09 ≤ n && n ≤ 0x0D) || (0x1C ≤ n && n ≤ 0x20) || n == 0x85 || n == 0xA0 || n == 0x1680 ||
    (0x2000 ≤ n && n ≤ 0x200A) || n == 0x2028 || n == 0x2029 || n == 0x202F || n == 0x205F ||
    n == 0x3000

def Symbol.isBlank (s : Symbol) : Bool := isBlankCode s.code

namespace Text

def trim (t : Text) : Text :=
  ((t.dropWhile Symbol.isBlank).reverse.dropWhile Symbol.isBlank).reverse

def words (t : Text) : List Text := (t.pieces Symbol.isBlank).filter (!·.isEmpty)

end Text

end SandboxShell

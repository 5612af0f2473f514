import SandboxShell.Text.Utf8

/-!
Texts as the system takes them, for names of files and for the arguments of programs. They are handed
over in bytes, of which the first zero would be the end.
-/

namespace SandboxShell

/-- Why the system has no form for a text: it would end early, or a symbol stands for no byte. -/
inductive NameFault where
  | zero
  | unencodable (fault : Utf8.WriteFault)
  deriving DecidableEq, Repr

def NameFault.message : NameFault → Text
  | .zero => "embedded null byte"
  | .unencodable fault => fault.message

namespace Text

def nameFault? (t : Text) : Option NameFault :=
  match Utf8.encode t with
  | .error fault => some (.unencodable fault)
  | .ok content => if 0 ∈ content then some .zero else none

end Text

end SandboxShell

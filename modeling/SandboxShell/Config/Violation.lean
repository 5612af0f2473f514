import SandboxShell.Config.Basic
import SandboxShell.Text.Utf8

/-!
Messages on configurations that are not valid. A value is shown in at most 50 bytes: of a longer one
the beginning and the end.
-/

namespace SandboxShell

namespace Config

def fitting : Nat → Text → Text
  | _, [] => []
  | room, s :: rest =>
    let size := Utf8.symbolWidth s
    if size ≤ room then s :: fitting (room - size) rest else []

/-- A text of more than 50 bytes, as its first 25 and its last 24 with dots between; a symbol that
would be cut is left out. -/
def abbreviated (t : Text) : Text :=
  if Utf8.width t ≤ 50 then t
  else fitting 25 t ++ "..." ++ (fitting 24 t.reverse).reverse

def Violation.message (v : Violation) : Text :=
  v.field.name ++ "\n  Input should be a valid string [type=string_type, input_value=" ++
    abbreviated v.value.shown ++ ", input_type=" ++ v.value.typeName ++
    "]\n    For further information visit https://errors.pydantic.dev/2.14/v/string_type"

def violationsMessage (vs : List Violation) : Text :=
  let count := Text.ofNat vs.length ++
    (if vs.length = 1 then " validation error" else " validation errors") ++ " for BoxshConfig"
  Text.join "\n" (count :: vs.map Violation.message)

end Config

end SandboxShell

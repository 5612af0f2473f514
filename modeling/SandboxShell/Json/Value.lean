import SandboxShell.Decimal.Shortest
import SandboxShell.Text.Quoted

/-!
JSON values, and the form in which a message shows them: constants with a capital letter, text
quoted, lists and objects in brackets with their members in the order in which they came.
-/

namespace SandboxShell

/-- A JSON value. The members of an object stand in the order in which their names first came. -/
inductive Json where
  | null
  | bool (b : Bool)
  | integer (n : Int)
  | real (x : Binary64)
  | string (t : Text)
  | array (items : List Json)
  | object (members : List (Text × Json))

namespace Json

def typeName : Json → Text
  | .null => "NoneType"
  | .bool _ => "bool"
  | .integer _ => "int"
  | .real _ => "float"
  | .string _ => "str"
  | .array _ => "list"
  | .object _ => "dict"

mutual

def shown : Json → Text
  | .null => "None"
  | .bool b => if b then "True" else "False"
  | .integer n => Text.ofInt n
  | .real x => x.text
  | .string t => t.quoted
  | .array items => "[" ++ Text.join ", " (shownItems items) ++ "]"
  | .object members => .char '\x7b' :: Text.join ", " (shownMembers members) ++ [.char '\x7d']

def shownItems : List Json → List Text
  | [] => []
  | item :: rest => shown item :: shownItems rest

def shownMembers : List (Text × Json) → List Text
  | [] => []
  | (name, value) :: rest => (name.quoted ++ ": " ++ shown value) :: shownMembers rest

end

end Json

end SandboxShell

import SandboxShell.Json.Value
import SandboxShell.Json.Reader

/-!
Configurations. A configuration file holds a JSON object; three of its members count, and each of
them has to be a string.
-/

namespace SandboxShell

structure Config where
  tool : Text := "nix-shell"
  userHook : Text := ""
  promptMark : Text := "(boxsh)"
  deriving DecidableEq, Repr

namespace Config

/-- The members that count, in the order in which they are checked. -/
inductive Field where
  | tool
  | userHook
  | promptMark
  deriving DecidableEq, Repr

def Field.name : Field → Text
  | .tool => "sandbox_tool"
  | .userHook => "user_init_hook"
  | .promptMark => "prompt_prefix"

def Field.all : List Field := [.tool, .userHook, .promptMark]

def get (c : Config) : Field → Text
  | .tool => c.tool
  | .userHook => c.userHook
  | .promptMark => c.promptMark

structure Violation where
  field : Field
  value : Json

def setting (members : List (Text × Json)) (f : Field) : Except Violation Text :=
  match Entries.find? f.name members with
  | none => .ok (Config.get {} f)
  | some (.string t) => .ok t
  | some value => .error ⟨f, value⟩

def violations (members : List (Text × Json)) : List Violation :=
  Field.all.filterMap fun f =>
    match setting members f with
    | .ok _ => none
    | .error v => some v

def ofMembers (members : List (Text × Json)) : Except (List Violation) Config :=
  match setting members .tool, setting members .userHook, setting members .promptMark with
  | .ok tool, .ok userHook, .ok promptMark => .ok { tool, userHook, promptMark }
  | _, _, _ => .error (violations members)

end Config

end SandboxShell

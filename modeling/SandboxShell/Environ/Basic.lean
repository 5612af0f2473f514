import SandboxShell.Table

/-!
Environments: the variables of a process, each with a value. A variable is passed on as one entry
`NAME=VALUE`; the name ends at the first equals sign, so a value may hold more of them.
-/

namespace SandboxShell

abbrev Environ := Table Text

namespace Environ

/-- The value of a variable; one that is not set counts as empty. -/
def value (e : Environ) (name : Text) : Text := (e.find? name).getD ""

theorem value_put (e : Environ) (name value n : Text) :
    Environ.value (e.put name value) n = if n = name then value else e.value n := by
  unfold Environ.value
  rw [Table.find?_put]
  split <;> rfl

def entry (name value : Text) : Text := name ++ "=" ++ value

/-- The name in an entry; an entry without an equals sign is a name alone. -/
def entryName (e : Text) : Text := e.before '='

def entryValue (e : Text) : Text := e.after '='

/-- The environment that a list of entries describes; of two entries for one name the later
counts. -/
def ofEntries (entries : List Text) : Environ :=
  Table.ofList (entries.map fun e => (entryName e, entryValue e))

end Environ

end SandboxShell

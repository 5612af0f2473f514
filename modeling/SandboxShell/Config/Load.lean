import SandboxShell.Config.Violation
import SandboxShell.Session.Event
import SandboxShell.Text.Blank

/-!
Finding and loading the configuration. Its file lies in the home directory, unless a variable
names another one; the home directory is looked up first in either case. A file that is not there
gives the default settings. A variable can name the sandbox tool, which then goes before the
file's.
-/

namespace SandboxShell

namespace Config

/-- Why no configuration was loaded. The first five end the program; the others are reported. -/
inductive Fault where
  /-- There is no telling where the home directory is. -/
  | homeless
  /-- The file is no UTF-8. -/
  | undecodable (fault : Utf8.Fault)
  /-- The file holds a whole number of too many digits. -/
  | tooManyDigits (count : Nat)
  /-- The file holds a list or an object inside too many others. -/
  | tooDeep (opened : Json.Container)
  /-- There is no telling whether there is a file. -/
  | hidden (path : Path) (fault : SystemFault)
  | refused (path : Path) (fault : SystemFault)
  /-- The file holds `text`, which is no JSON from `unread` on. -/
  | malformed (path : Path) (text : Text) (complaint : Json.Complaint) (unread : Text)
  | noObject (path : Path)
  | invalid (path : Path) (violations : List Violation)

namespace Fault

def isReported : Fault → Bool
  | .homeless | .undecodable _ | .tooManyDigits _ | .tooDeep _ | .hidden .. => false
  | .refused .. | .malformed .. | .noObject _ | .invalid .. => true

def message : Fault → Text
  | .homeless => "Could not determine home directory."
  | .undecodable fault => fault.message
  | .tooManyDigits count => Json.tooManyDigitsMessage count
  | .tooDeep opened => Json.tooDeepMessage opened
  | .hidden path fault => fault.messageAt path
  | .refused path fault => "cannot read " ++ path ++ ": " ++ fault.messageAt path
  | .malformed path text complaint unread =>
    "cannot read " ++ path ++ ": " ++ complaint.messageAt text unread
  | .noObject path => path ++ ": expected a JSON object"
  | .invalid path violations =>
    "invalid config in " ++ path ++ ": " ++ violationsMessage violations

end Fault

def homeFile (h : Host) : Except Fault Route :=
  match (Route.mk .current ["~"]).expandHome? h.accounts h.environ with
  | none => .error .homeless
  | some home => .ok (home.extend [".boxsh", "config.json"])

def location (h : Host) : Except Fault Route := do
  let standard ← homeFile h
  let named := (h.environ.value "BOXSH_CONFIG").trim
  if named = [] then return standard
  else match (Path.route named).expandHome? h.accounts h.environ with
    | none => .error .homeless
    | some route => .ok route

/-- The members of the object that the content of the file at `path` stands for, read with room for
so many lists and objects inside one another. -/
def readMembers (room : Nat) (path : Path) (content : Bytes) : Except Fault (List (Text × Json)) :=
  match Utf8.decodeStrict content with
  | .error fault => .error (.undecodable fault)
  | .ok decoded =>
    let text := decoded.unifyNewlines
    match Json.read room text with
    | .ok (.object members) => .ok members
    | .ok _ => .error (.noObject path)
    | .error (.tooManyDigits count) => .error (.tooManyDigits count)
    | .error (.tooDeep opened) => .error (.tooDeep opened)
    | .error (.malformed complaint unread) => .error (.malformed path text complaint unread)

def fileMembers (h : Host) (path : Path) : Traced (Except Fault (List (Text × Json))) :=
  match h.fileAt path with
  | none => do
    Traced.note .config ("no config at " ++ path ++ ", using defaults")
    return .ok []
  | some (.hidden fault) => pure (.error (.hidden path fault))
  | some (.refused fault) => pure (.error (.refused path fault))
  | some (.bytes content) =>
    match readMembers h.nesting path content with
    | .error fault => pure (.error fault)
    | .ok members => do
      Traced.note .config ("loaded config from " ++ path)
      return .ok members

def withTool (environ : Environ) (members : List (Text × Json)) : List (Text × Json) :=
  let tool := (environ.value "BOXSH_SANDBOX_TOOL").trim
  if tool = [] then members else Entries.put Field.tool.name (.string tool) members

def loadFrom (h : Host) (path : Path) : Traced (Except Fault Config) := do
  match ← fileMembers h path with
  | .error fault => return .error fault
  | .ok members =>
    match ofMembers (withTool h.environ members) with
    | .ok config => return .ok config
    | .error violations => return .error (.invalid path violations)

def load (h : Host) (path : Option Path) : Traced (Except Fault Config) :=
  match homeFile h, path with
  | .error fault, _ => pure (.error fault)
  | .ok _, some p => loadFrom h (Path.route p).text
  | .ok _, none =>
    match location h with
    | .error fault => pure (.error fault)
    | .ok route => loadFrom h route.text

end Config

end SandboxShell

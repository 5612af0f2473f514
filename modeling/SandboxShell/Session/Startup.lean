import SandboxShell.Session.Event
import SandboxShell.Shell.Profile
import SandboxShell.Shell.StartupFile
import SandboxShell.Text.Blank
import SandboxShell.Text.Utf8

/-!
Writing the startup file of a session. It goes into a fresh directory of its own, because a zsh is
pointed at a directory, under the name of the user's own startup file, because a zsh looks for that
name there. A hook without a text is found out when the file is put together: by then the directory
is made and the user's own file has been looked for.
-/

namespace SandboxShell

inductive StartupFault where
  /-- The place of the user's startup file is not known. -/
  | noPath
  | noDirectory (fault : SystemFault)
  /-- The system has no form for the path of the user's startup file. -/
  | unnameable (fault : NameFault)
  /-- A hook is asked for, and its text is missing. -/
  | hookWithoutText
  | notOpened (path : Path) (fault : SystemFault)
  /-- The file was opened, but its text has no written form, so that it stays empty. -/
  | notEncoded (fault : Utf8.WriteFault)
  /-- The file was opened, and a part of its text may be in it. -/
  | notFinished (fault : SystemFault)
  deriving DecidableEq, Repr

def StartupFault.message : StartupFault → Text
  | .noPath => "write_shellrc called with an empty user shellrc path"
  | .noDirectory fault => "create temp dir for shell init file: " ++ fault.message
  | .unnameable fault => fault.message
  | .hookWithoutText => "'list' object has no attribute 'strip'"
  | .notOpened path fault => "write to shell init file: " ++ fault.messageAt path
  | .notEncoded fault => "write to shell init file: " ++ fault.message
  | .notFinished fault => "write to shell init file: " ++ fault.message

/-- Whether no session starts after this fault. The others lie with the machine or with the text,
and a session does without a startup file. -/
def StartupFault.isFatal : StartupFault → Bool
  | .noPath | .unnameable _ | .hookWithoutText => true
  | .noDirectory _ | .notOpened .. | .notEncoded _ | .notFinished _ => false

namespace ShellProfile

/-- The text of the user's startup file, with unified line ends. A file that the system refuses to
read counts as empty, but not one for whose path it has no form. -/
def readOwnStartup (h : Host) (path : Path) : Traced (Except NameFault Text) :=
  match h.read path with
  | .ok content => pure (.ok (Utf8.decode content).unifyNewlines)
  | .error (.unnameable fault) => pure (.error fault)
  | .error (.refused fault) => do
    Traced.note .hooks ("not including " ++ path ++ " in boxsh shellrc: " ++ fault.messageAt path)
    return .ok []

def startupName (path : Path) : Text :=
  let base := Path.baseName path
  if base = [] then "shellrc" else base

def startupFile (p : ShellProfile) (ownText planHook promptMark : Text) : StartupFile where
  ownText := ownText.trim
  ownPath := Path.normalize p.startupPath
  userHook := p.userHook.trim
  planHook := planHook.trim
  promptMark := promptMark

/-- Writes a text to a path, which it answers. All of it is put into bytes before the first of them is
written. -/
def writeText (h : Host) (path : Path) (t : Text) : Traced (Except StartupFault Path) :=
  match h.writing path, Utf8.encode t with
  | .refused fault, _ => pure (.error (.notOpened path fault))
  | .kept, .error fault | .broken .., .error fault => do
    Traced.emit (.wrote path [])
    return .error (.notEncoded fault)
  | .broken count fault, .ok content => do
    Traced.emit (.wrote path (content.take count))
    return .error (.notFinished fault)
  | .kept, .ok content => do
    Traced.emit (.wrote path content)
    Traced.note .hooks ("wrote boxsh shellrc to: " ++ path)
    return .ok path

def writeStartup (h : Host) (p : ShellProfile) (promptMark : Text) :
    Traced (Except StartupFault Path) :=
  if p.startupPath = [] then pure (.error .noPath)
  else match h.freshDirectory with
    | .error fault => pure (.error (.noDirectory fault))
    | .ok directory => do
      Traced.emit (.madeDirectory directory)
      match ← readOwnStartup h p.startupPath, p.planHook with
      | .error fault, _ => return .error (.unnameable fault)
      | .ok _, none => return .error .hookWithoutText
      | .ok ownText, some planHook =>
        -- every symbol of the new path is one of its directory or of the user's own path
        writeText h (Path.under directory (startupName p.startupPath))
          (p.startupFile ownText planHook promptMark).text

end ShellProfile

end SandboxShell

import SandboxShell.Session.Startup
import SandboxShell.Shell.Command
import SandboxShell.Config.Basic
import SandboxShell.Environ.Inherited

/-!
Launching a session: the sandbox tool is started once, with the command that runs the user's
shell, or without one if that shell is not known; then the tool runs a shell of its own. A startup
file that cannot be written is no obstacle, the shell starts without it; one that cannot be put
together is, and so is an argument that the system has no form for: then the tool is not started.
-/

namespace SandboxShell

namespace Session

def argv (packages : Text) (entries : List Text) (command : Option Text) (config : Config) :
    List Text :=
  let run := match command with
    | none => []
    | some c => [Text.ofString "--command", c]
  config.tool :: run ++ [Text.ofString "--pure"] ++ Environ.keepArguments entries ++ [packages]

inductive Fault where
  | exited (tool : Text) (status : Int)
  | notStarted (tool : Text) (program : Text) (fault : SystemFault)
  /-- The startup file could not be put together. -/
  | unprepared (fault : StartupFault)
  /-- The system has no form for an argument of the tool. -/
  | unnameable (fault : NameFault)
  deriving DecidableEq, Repr

def Fault.message : Fault → Text
  | .exited tool status => tool ++ " exited with status " ++ Text.ofInt status
  | .notStarted tool program fault => "failed to run " ++ tool ++ ": " ++ fault.messageAt program
  | .unprepared fault => fault.message
  | .unnameable fault => fault.message

def Fault.isReported : Fault → Bool
  | .exited .. | .notStarted .. => true
  | .unprepared _ | .unnameable _ => false

def Fault.status? : Fault → Option Int
  | .exited _ status => some status
  | .notStarted .. | .unprepared _ | .unnameable _ => none

def startup (h : Host) (p : ShellProfile) (config : Config) :
    Traced (Except StartupFault (Option Path)) :=
  if p.startupPath = [] ∨ p.kind = .unknown then pure (.ok none)
  else do
    match ← p.writeStartup h config.promptMark with
    | .ok path => return .ok (some path)
    | .error fault =>
      if fault.isFatal then return .error fault
      else
        Traced.note .launcher ("failed to write boxsh shellrc: " ++ fault.message)
        return .ok none

def plan (h : Host) (packages : Text) (entries : List Text) (profile : Option ShellProfile)
    (config : Config) : Traced (Except StartupFault (List Text)) := do
  match profile.filter (·.program ≠ []) with
  | none =>
    let args := argv packages entries none config
    Traced.note .launcher
      ("unable to detect the user's shell, falling back to: " ++ Text.quotedList args)
    return .ok args
  | some p =>
    match ← startup h p config with
    | .error fault => return .error fault
    | .ok path =>
      let args := argv packages entries (some (p.command path)) config
      Traced.note .launcher ("executing " ++ config.tool ++ " command: " ++ Text.quotedList args)
      return .ok args

def outcome (h : Host) (config : Config) : Except Fault Unit :=
  match h.tool with
  | .exited 0 => .ok ()
  | .exited status => .error (.exited config.tool status)
  | .refused fault => .error (.notStarted config.tool config.tool fault)

def start (h : Host) (config : Config) (invocation : Invocation) : Traced (Except Fault Unit) :=
  match invocation.argv.findSome? h.nameFault? with
  | some fault => pure (.error (.unnameable fault))
  | none => do
    Traced.emit (.started invocation)
    return outcome h config

def run (h : Host) (packages : Text) (profile : Option ShellProfile) (config : Config)
    (environ : Environ) : Traced (Except Fault Unit) := do
  let entries := environ.sessionEntries
  Traced.note .environment ("PARENT_PATH=" ++ environ.handedPath)
  match ← plan h packages entries profile config with
  | .error fault => return .error (.unprepared fault)
  | .ok args => start h config ⟨args, Environ.ofEntries entries⟩

def detect (environ : Environ) (settings : List HookSetting) : Traced (Option ShellProfile) := do
  match ShellProfile.detect? environ settings with
  | none => return none
  | some p =>
    Traced.note .detection ("detected shell: " ++ p.program)
    Traced.note .detection ("recognized shell as: " ++ p.kind.name)
    Traced.note .detection ("looking for user's shell init file at: " ++ p.startupPath)
    return some p

def noShellMessage : Text := "unable to detect the current shell"

end Session

end SandboxShell

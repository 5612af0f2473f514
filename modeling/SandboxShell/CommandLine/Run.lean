import SandboxShell.CommandLine.Help
import SandboxShell.CommandLine.Request
import SandboxShell.Config.Load
import SandboxShell.Session.Launch

/-!
A run of the program: from the arguments and the machine to a status, with all events on the way.
The home directory is looked for before the arguments are read. A configuration that cannot be
used is reported; a shell that is not known is no obstacle; and the status of the sandbox tool
becomes that of the program.
-/

namespace SandboxShell

namespace CommandLine

/-- What ends a run without a status. -/
inductive Escape where
  | config (fault : Config.Fault)
  | session (fault : Session.Fault)

def Escape.message : Escape → Text
  | .config fault => fault.message
  | .session fault => fault.message

structure Report where
  events : List Event
  /-- Whether the log is shown. -/
  debug : Bool
  outcome : Except Escape Int

def logLine (component : Component) (message : Text) : Text :=
  component.name ++ " DEBUG: " ++ message ++ "\n"

namespace Report

def output (r : Report) : Text :=
  r.events.flatMap fun
    | .printed t => t
    | _ => []

def errors (r : Report) : Text :=
  r.events.flatMap fun
    | .complained t => t
    | .noted component message => if r.debug then logLine component message else []
    | _ => []

end Report

/-- The status of the program after a session that did not end well: that of the tool, 128 and the
number of the signal that ended it, or 1 if it tells no status. -/
def exitStatus : Option Int → Int
  | none => 1
  | some status => if status = 0 then 1 else if status < 0 then 128 - status else status

def complain (message : Text) : Traced Unit :=
  Traced.emit (.complained ("Error: " ++ message ++ "\n"))

def configFor (request : Request) (config : Config) : Config :=
  if request.tool = [] then config else { config with tool := request.tool }

def profileFor (h : Host) (request : Request) (config : Config) : Traced (Option ShellProfile) := do
  match ← Session.detect h.environ [.plan request.planHook, .user config.userHook] with
  | some profile => return some profile
  | none =>
    Traced.note .app (Session.noShellMessage ++ "; starting the sandbox tool's default shell")
    return none

def runSession (h : Host) (request : Request) (config : Config) :
    Traced (Except Escape Int) := do
  let profile ← profileFor h request config
  match ← Session.run h request.packages profile config h.environ with
  | .ok () => return .ok 0
  | .error fault =>
    if fault.isReported then
      complain fault.message
      return .ok (exitStatus fault.status?)
    else return .error (.session fault)

def serve (h : Host) (request : Request) : Traced (Except Escape Int) := do
  match ← Config.load h none with
  | .ok config => runSession h request (configFor request config)
  | .error fault =>
    if fault.isReported then
      complain fault.message
      return .ok 1
    else return .error (.config fault)

def run (h : Host) (arguments : List Text) : Report :=
  match Config.homeFile h with
  | .error fault => ⟨[], false, .error (.config fault)⟩
  | .ok _ =>
    match request arguments with
    | .ok request =>
      let served := serve h request
      ⟨served.events, request.debug, served.value⟩
    | .error .showHelp => ⟨[.printed help], false, .ok 0⟩
    | .error .showVersion => ⟨[.printed versionText], false, .ok 0⟩
    | .error (.refused fault) => ⟨[.complained (refusal fault)], false, .ok 2⟩

end CommandLine

end SandboxShell

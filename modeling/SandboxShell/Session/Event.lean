import SandboxShell.Host

/-!
What a program does to the machine and shows to its user, as a list of events. A program is a pure
function of the machine it starts on; its answer comes with the events that it brings about, in
their order. The machine afterwards is had by letting the events happen one after the other.
-/

namespace SandboxShell

inductive Component where
  | config
  | detection
  | environment
  | hooks
  | launcher
  | app
  deriving DecidableEq, Repr

def Component.name : Component → Text
  | .config => "boxsh.config"
  | .detection => "boxsh.shell.detection"
  | .environment => "boxsh.shell.environment"
  | .hooks => "boxsh.shell.hooks"
  | .launcher => "boxsh.shell.launcher"
  | .app => "boxsh.cli.app"

structure Invocation where
  argv : List Text
  environ : Environ

inductive Event where
  /-- A line for the log. -/
  | noted (component : Component) (message : Text)
  /-- A fresh directory has been made. -/
  | madeDirectory (path : Path)
  /-- A file has been opened for writing and closed with this content. -/
  | wrote (path : Path) (content : Bytes)
  /-- The sandbox tool has been started, or it has been tried. -/
  | started (invocation : Invocation)
  /-- Text for standard output. -/
  | printed (text : Text)
  /-- Text for standard error. -/
  | complained (text : Text)

namespace Event

def file? : Event → Option (Path × Bytes)
  | .wrote path content => some (path, content)
  | _ => none

def invocation? : Event → Option Invocation
  | .started invocation => some invocation
  | _ => none

/-- The events up to the first start of the tool, with it, and those after. -/
def splitAtStart : List Event → List Event × List Event
  | [] => ([], [])
  | .started invocation :: rest => ([.started invocation], rest)
  | e :: rest => (e :: (splitAtStart rest).1, (splitAtStart rest).2)

end Event

def Host.after (h : Host) : Event → Host
  | .madeDirectory _ => { h with directories := h.directories + 1 }
  | .wrote path content => { h with files := h.files.put path (.bytes content) }
  | _ => h

def Host.afterAll (h : Host) (events : List Event) : Host := events.foldl Host.after h

/-- A value, and the events that came about on the way to it. -/
structure Traced (α : Type) where
  events : List Event
  value : α

namespace Traced

instance : Monad Traced where
  pure a := ⟨[], a⟩
  bind t f := ⟨t.events ++ (f t.value).events, (f t.value).value⟩

variable {α β : Type}

def emit (e : Event) : Traced Unit := ⟨[e], ()⟩

def note (component : Component) (message : Text) : Traced Unit := emit (.noted component message)

def files (t : Traced α) : List (Path × Bytes) := t.events.filterMap Event.file?

def invocations (t : Traced α) : List Invocation := t.events.filterMap Event.invocation?

@[simp] theorem events_pure (a : α) : (pure a : Traced α).events = [] := rfl

@[simp] theorem value_pure (a : α) : (pure a : Traced α).value = a := rfl

@[simp] theorem events_bind (t : Traced α) (f : α → Traced β) :
    (t >>= f).events = t.events ++ (f t.value).events := rfl

@[simp] theorem value_bind (t : Traced α) (f : α → Traced β) :
    (t >>= f).value = (f t.value).value := rfl

@[simp] theorem events_emit (e : Event) : (emit e).events = [e] := rfl

@[simp] theorem events_note (component : Component) (message : Text) :
    (note component message).events = [.noted component message] := rfl

@[simp] theorem files_note (component : Component) (message : Text) :
    (note component message).files = [] := rfl

@[simp] theorem files_bind (t : Traced α) (f : α → Traced β) :
    (t >>= f).files = t.files ++ (f t.value).files := List.filterMap_append

@[simp] theorem invocations_note (component : Component) (message : Text) :
    (note component message).invocations = [] := rfl

@[simp] theorem invocations_bind (t : Traced α) (f : α → Traced β) :
    (t >>= f).invocations = t.invocations ++ (f t.value).invocations := List.filterMap_append

end Traced

end SandboxShell

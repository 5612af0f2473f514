import SandboxShell.Path.Fresh
import SandboxShell.Path.Home
import SandboxShell.Text.Quoted
import SandboxShell.Text.SystemName

/-!
The machine that a session is started on, as far as it matters: the environment of the program, the
files at each path, the directories that it makes, what comes of writing a file, and what the sandbox
tool does when it is started. Files are looked up by the path exactly as it is given. An environment
is one that the machine could hand over, and is not looked at again before it hands it on.
-/

namespace SandboxShell

structure SystemFault where
  code : Int
  reason : Text
  deriving DecidableEq, Repr

namespace SystemFault

def message (f : SystemFault) : Text := "[Errno " ++ Text.ofInt f.code ++ "] " ++ f.reason

def messageAt (f : SystemFault) (p : Path) : Text := f.message ++ ": " ++ p.quoted

def noFile : SystemFault := ⟨2, "No such file or directory"⟩

def isDirectory : SystemFault := ⟨21, "Is a directory"⟩

/-- The way to a path breaks off: a part of it is missing, is no directory, or leads in a circle. The
codes are those of Linux. -/
def isAbsence (f : SystemFault) : Bool := f.code ∈ [2, 9, 20, 40]

end SystemFault

/-- What there is at a path: a file with its content, one that cannot be opened, or something that
cannot even be looked for, as in a directory that may not be searched. -/
inductive FileContent where
  | bytes (content : Bytes)
  | refused (fault : SystemFault)
  | hidden (fault : SystemFault)
  deriving DecidableEq, Repr

/-- What comes of writing a file: it holds all that was written, it cannot be opened, or the writing
breaks off, and as many bytes are left as got there. -/
inductive WriteOutcome where
  | kept
  | refused (fault : SystemFault)
  | broken (count : Nat) (fault : SystemFault)
  deriving DecidableEq, Repr

def WriteOutcome.opens : WriteOutcome → Bool
  | .refused _ => false
  | .kept | .broken .. => true

/-- What comes of starting the sandbox tool: it ends with a status, which is negative if a signal
ended it, or it cannot be started. -/
inductive ToolOutcome where
  | exited (status : Int)
  | refused (fault : SystemFault)
  deriving DecidableEq, Repr

inductive ReadFault where
  | refused (fault : SystemFault)
  | unnameable (fault : NameFault)
  deriving DecidableEq, Repr

/-- A name that leads to a directory that is there already. -/
def Path.IsWay (name : Text) : Prop := name = Text.ofString "." ∨ name = Text.ofString ".."

instance (name : Text) : Decidable (Path.IsWay name) := inferInstanceAs (Decidable (_ ∨ _))

def WriteOutcome.usual (p : Path) : WriteOutcome :=
  if Path.IsWay (Path.baseName p) then .refused .isDirectory else .kept

/-- The machine that a session is started on. Where nothing else is said, nothing stands in the way
of a session. -/
structure Host where
  environ : Environ
  accounts : Accounts := ⟨none, Table.empty⟩
  files : Table FileContent := Table.empty
  /-- How many directories have been made. -/
  directories : Nat := 0
  /-- The directory made after so many others. -/
  fresh : Nat → FreshDirectory := .numbered
  /-- Why no directory can be made, if so. -/
  directoryFault : Option SystemFault := none
  writing : Path → WriteOutcome := .usual
  nameFault? : Text → Option NameFault := Text.nameFault?
  /-- How many lists and objects the reader of JSON has room for inside one another. It is what the
  callers of the program have left of the machine's stack. -/
  nesting : Nat
  tool : ToolOutcome := .exited 0

namespace Host

def read (h : Host) (p : Path) : Except ReadFault Bytes :=
  match h.nameFault? p, h.files.find? p with
  | some fault, _ => .error (.unnameable fault)
  | none, none => .error (.refused .noFile)
  | none, some (.hidden fault) | none, some (.refused fault) => .error (.refused fault)
  | none, some (.bytes content) => .ok content

/-- What there is at a path for somebody who looks first. -/
def fileAt (h : Host) (p : Path) : Option FileContent :=
  (h.files.find? p).filter fun
    | .hidden fault => !fault.isAbsence
    | _ => true

def nextDirectory (h : Host) : Path := (h.fresh h.directories).path

def freshDirectory (h : Host) : Except SystemFault Path :=
  match h.directoryFault with
  | some fault => .error fault
  | none => .ok h.nextDirectory

end Host

end SandboxShell

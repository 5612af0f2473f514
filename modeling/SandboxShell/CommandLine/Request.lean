import SandboxShell.CommandLine.Switch

/-!
What the arguments of the command line ask for. They are read from left to right. A flag that
shows something ends the reading at once; of a setting given twice the last value counts; the
first word is the packages to provide, and nothing else may be left over. The divider is never a
value: attached to a setting it is taken out, and the setting is given without a value.
-/

namespace SandboxShell

namespace CommandLine

structure Request where
  packages : Text
  /-- The hook to run at startup; `none` if it is given without a value. -/
  planHook : Option Text
  /-- The sandbox tool to use; empty for the configured one. -/
  tool : Text
  debug : Bool
  deriving DecidableEq, Repr

inductive Ending where
  | showHelp
  | showVersion
  | refused (fault : Fault)
  deriving DecidableEq, Repr

structure Progress where
  packages : Option Text := none
  planHook : Option Text := some []
  tool : Text := ""
  debug : Bool := false
  leftOver : List Text := []
  /-- A setting whose value is the next argument. -/
  awaiting : Option Setting := none
  /-- Whether the last argument gave the packages. -/
  placed : Bool := false

namespace Progress

/-- Gives a setting its value, or no value. Without one, the tool is the configured one. -/
def assign (p : Progress) (s : Setting) (value : Option Text) : Progress :=
  match s with
  | .initHook => { p with planHook := value }
  | .tool => { p with tool := value.getD [] }

def actAll (p : Progress) : List Flag → Except Ending Progress
  | [] => .ok p
  | .help :: _ => .error .showHelp
  | .version :: _ => .error .showVersion
  | .debug :: rest => actAll { p with debug := true } rest

/-- The flags that a letter and the letters attached to it mean. -/
def letterFlags (f : Flag) : Text → Except Ending (List Flag)
  | [] => .ok [f]
  | letter :: rest =>
    match Switch.flagOfLetter? letter with
    | some next => (letterFlags next rest).map (f :: ·)
    | none => .error (.refused (.attachedToFlag f (letter :: rest)))

def flags (f : Flag) (spelling : Text) : Option Text → Except Ending (List Flag)
  | none => .ok [f]
  | some value =>
    if Switch.isLetter spelling ∧ value ≠ [] then letterFlags f value
    else .error (.refused (.attachedToFlag f value))

def word (p : Progress) (argument : Text) : Progress :=
  match p.packages with
  | none => { p with packages := some argument, placed := true }
  | some _ => { p with leftOver := p.leftOver ++ [argument], placed := false }

/-- The divider, which is left over unless the packages are yet to come or stand right before it. -/
def divide (p : Progress) (argument : Text) : Progress :=
  if p.packages = none ∨ p.placed then { p with placed := false }
  else { p with leftOver := p.leftOver ++ [argument] }

def switch (p : Progress) (spelling : Text) (attached : Option Text) :
    Switch → Except Ending Progress
  | .flag f => (flags f spelling attached).bind p.actAll
  | .setting s =>
    match attached with
    | none => .ok { p with awaiting := some s }
    | some value => .ok (p.assign s (if value = divider then none else some value))

def step (p : Progress) : Text × Mark → Except Ending Progress
  | (argument, mark) =>
    match p.awaiting, mark with
    | some s, .word => .ok ({ p with awaiting := none }.assign s (some argument))
    | some s, _ => .error (.refused (.noValue s))
    | none, .word => .ok (p.word argument)
    | none, .divider => .ok (p.divide argument)
    | none, .unknown => .ok { p with leftOver := p.leftOver ++ [argument], placed := false }
    | none, .switch s spelling attached => { p with placed := false }.switch spelling attached s

def defaultPackages : Text := "shell.nix"

def finish (p : Progress) : Except Ending Request :=
  match p.awaiting, p.leftOver with
  | some s, _ => .error (.refused (.noValue s))
  | none, _ :: _ => .error (.refused (.unrecognized p.leftOver))
  | none, [] =>
    .ok { packages := p.packages.getD defaultPackages, planHook := p.planHook, tool := p.tool,
          debug := p.debug }

end Progress

/-- What the arguments ask for. All of them are given their parts before any of them acts. -/
def request (arguments : List Text) : Except Ending Request :=
  match marked arguments with
  | .error fault => .error (.refused fault)
  | .ok parts => do
    let progress ← parts.foldlM Progress.step {}
    progress.finish

end CommandLine

end SandboxShell

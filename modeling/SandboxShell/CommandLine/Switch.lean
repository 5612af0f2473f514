import SandboxShell.Decimal.Digit
import SandboxShell.Text.Quoted

/-!
Switches of the command line, and the part that a single argument plays. A switch may be cut short
as long as one switch is meant, a value may be attached to it after an equals sign, and one-letter
flags may be run together.
-/

namespace SandboxShell

namespace CommandLine

inductive Flag where
  | help
  | version
  | debug
  deriving DecidableEq, Repr

inductive Setting where
  | initHook
  | tool
  deriving DecidableEq, Repr

inductive Switch where
  | flag (f : Flag)
  | setting (s : Setting)
  deriving DecidableEq, Repr

namespace Switch

def spellings : List (Text × Switch) :=
  [("-h", .flag .help), ("--help", .flag .help), ("-V", .flag .version),
    ("--version", .flag .version), ("-d", .flag .debug), ("--debug", .flag .debug),
    ("--init-hook", .setting .initHook), ("--tool", .setting .tool)]

def ofSpelling? (t : Text) : Option Switch := (spellings.find? (·.1 = t)).map Prod.snd

def label (s : Switch) : Text :=
  Text.join "/" ((spellings.filter (·.2 = s)).map Prod.fst)

/-- Whether a spelling is of one letter, so that others may follow in the same argument. -/
def isLetter (spelling : Text) : Bool := !Text.startsWith spelling "--"

def flagOfLetter? (letter : Symbol) : Option Flag :=
  match ofSpelling? [.char '-', letter] with
  | some (.flag f) => some f
  | _ => none

end Switch

inductive Fault where
  /-- An argument that several switches begin with. -/
  | ambiguous (argument : Text) (spellings : List Text)
  /-- A value for a flag, which has none. -/
  | attachedToFlag (flag : Flag) (value : Text)
  /-- A setting without a value. -/
  | noValue (setting : Setting)
  /-- Arguments that are left over. -/
  | unrecognized (arguments : List Text)
  deriving DecidableEq, Repr

def Fault.message : Fault → Text
  | .ambiguous argument spellings =>
    "ambiguous option: " ++ argument ++ " could match " ++ Text.join ", " spellings
  | .attachedToFlag flag value =>
    "argument " ++ (Switch.flag flag).label ++ ": ignored explicit argument " ++ Text.quoted value
  | .noValue setting => "argument " ++ (Switch.setting setting).label ++ ": expected one argument"
  | .unrecognized arguments => "unrecognized arguments: " ++ Text.join " " arguments

inductive Mark where
  /-- A word of its own, or the value of a setting in front of it. -/
  | word
  /-- The two dashes after which all arguments are words. -/
  | divider
  /-- A switch as it is spelled in full, and the value attached to it. -/
  | switch (s : Switch) (spelling : Text) (attached : Option Text)
  /-- What looks like a switch and is none. -/
  | unknown
  deriving DecidableEq, Repr

def divider : Text := "--"

/-- A minus sign and a decimal number, of which either part may be missing but not the digits
after a point. A newline may follow. -/
def isNegativeNumber (argument : Text) : Bool :=
  match argument with
  | .char '-' :: body =>
    let number := if body.getLast? = some (.char '\n') then body.dropLast else body
    match number.dropWhile Symbol.isDecimal with
    | [] => number ≠ []
    | .char '.' :: fraction => fraction ≠ [] && fraction.all Symbol.isDecimal
    | _ => false
  | _ => false

def attachedValue? (argument : Text) : Option Text :=
  if Symbol.char '=' ∈ argument then some (argument.after '=') else none

/-- The switches that an argument may mean, with the value attached in each case. After two dashes a
name may be cut short; after one dash the first letter counts, and the rest is attached. -/
def candidates (argument : Text) : List (Text × Switch × Option Text) :=
  if Text.startsWith argument divider then
    (Switch.spellings.filter fun entry => Text.startsWith entry.1 (argument.before '=')).map
      fun entry => (entry.1, entry.2, attachedValue? argument)
  else
    (Switch.spellings.filter fun entry => entry.1 = argument.take 2).map
      fun entry => (entry.1, entry.2, some (argument.drop 2))

def markOfOther (argument : Text) : Except Fault Mark :=
  match candidates argument with
  | [(spelling, s, attached)] => .ok (.switch s spelling attached)
  | [] =>
    if isNegativeNumber argument ∨ Symbol.char ' ' ∈ argument then .ok .word else .ok .unknown
  | several => .error (.ambiguous argument (several.map Prod.fst))

def markOf (argument : Text) : Except Fault Mark :=
  match argument with
  | .char '-' :: _ :: _ =>
    match Switch.ofSpelling? argument, Switch.ofSpelling? (argument.before '=') with
    | some s, _ => .ok (.switch s argument none)
    | none, some s => .ok (.switch s (argument.before '=') (attachedValue? argument))
    | none, none => markOfOther argument
  | _ => .ok .word

def marked : List Text → Except Fault (List (Text × Mark))
  | [] => .ok []
  | argument :: rest =>
    if argument = divider then .ok ((argument, .divider) :: rest.map (·, .word))
    else do
      let mark ← markOf argument
      return (argument, mark) :: (← marked rest)

end CommandLine

end SandboxShell

import SandboxShell.Shell.Word

/-!
Scripts as a POSIX shell reads and runs them, as far as the startup file of a session needs it. A
script is cut into commands at newlines and semicolons, a command into words; a comment runs to the
end of its line. A reader refuses what it does not know: operators, substitutions, patterns. What is
run are assignments, with or without `export`, and the condition that a word is not empty.
-/

namespace SandboxShell

/-- A word of a script. How it is spelled tells a reserved word and the name of an assignment from the
same text in quotes. -/
structure ScriptWord where
  spelled : Text
  parts : ShellWord
  deriving DecidableEq, Repr

abbrev ScriptCommand := List ScriptWord

structure ScriptReader where
  /-- The reader of the word that is being read. -/
  word : WordReader := {}
  /-- That word as it is spelled so far, the last symbol first. -/
  spelled : Text := []
  inComment : Bool := false
  /-- The words of the command that is being read, the last one first. -/
  words : List ScriptWord := []
  /-- The commands before, the last one first. -/
  done : List ScriptCommand := []
  deriving DecidableEq, Repr

namespace ScriptReader

def endWord (r : ScriptReader) : ScriptReader :=
  match r.word.current with
  | none => { r with word := {}, spelled := [] }
  | some parts =>
    { r with
      word := {}
      spelled := []
      words := ⟨r.spelled.reverse, parts.reverse⟩ :: r.words }

/-- The reader between commands. A command has at least one word. -/
def endCommand (r : ScriptReader) : ScriptReader :=
  let r := r.endWord
  if r.words = [] then { r with inComment := false }
  else { r with inComment := false, words := [], done := r.words.reverse :: r.done }

/-- One more symbol of a word. A backslash before a newline is no part of the spelling, and neither is
the newline. -/
def spell (r : ScriptReader) (s : Symbol) : Option ScriptReader :=
  let joins := s = .char '\n' ∧ (r.word.quoting = .escaped ∨ r.word.quoting = .doubleEscaped)
  (r.word.step s).map fun word =>
    { r with word, spelled := if joins then r.spelled.tail else s :: r.spelled }

/-- One more symbol outside quotes and comments. A bracket is read as a word of its own alone, since
any other may belong to a pattern. -/
def stepBare (r : ScriptReader) (s : Symbol) : Option ScriptReader :=
  if s = .char ' ' ∨ s = .char '\t' then some r.endWord
  else if s = .char '\n' then some r.endCommand
  else if s = .char ';' then if r.endWord.words = [] then none else some r.endCommand
  else if r.spelled = Text.ofString "[" then none
  else if r.word.current = none ∧ s = .char '#' then some { r with inComment := true }
  else if r.word.current = none ∧ s = .char '[' then
    some { r with word := r.word.add (.literal s), spelled := [s] }
  else r.spell s

def step (r : ScriptReader) (s : Symbol) : Option ScriptReader :=
  if r.inComment then some (if s = .char '\n' then r.endCommand else r)
  else if r.word.quoting = .bare then r.stepBare s
  else r.spell s

def finish (r : ScriptReader) : Option (List ScriptCommand) :=
  if r.word.quoting = .bare then some r.endCommand.done.reverse else none

end ScriptReader

def Text.scriptCommands? (t : Text) : Option (List ScriptCommand) :=
  (t.foldlM ScriptReader.step {}).bind ScriptReader.finish

namespace ScriptWord

def isName : Text → Bool
  | [] => false
  | s :: rest => WordReader.isLetter s && rest.all WordReader.isLetterOrDigit

/-- The variable that a word assigns to, and the word for its value: an assignment begins with a name
and an equals sign, neither of them quoted. -/
def assignment? (w : ScriptWord) : Option (Text × ShellWord) :=
  let name := w.spelled.before '='
  if isName name ∧ .char '=' ∈ w.spelled then some (name, w.parts.drop (name.length + 1)) else none

end ScriptWord

abbrev ShellVariables := Text → Text

namespace ShellVariables

def set (values : ShellVariables) (name value : Text) : ShellVariables :=
  fun n => if n = name then value else values n

def assign? (values : ShellVariables) (words : List ScriptWord) : Option ShellVariables :=
  words.foldlM (fun values w =>
    w.assignment?.map fun (name, value) => values.set name (value.text values)) values

/-- A command that assigns. That the variables are exported leaves their values alone. -/
def runSimple? (values : ShellVariables) : ScriptCommand → Option ShellVariables
  | [] => some values
  | first :: words =>
    if first.spelled = Text.ofString "export" then values.assign? words
    else values.assign? (first :: words)

def condition? (values : ShellVariables) : ScriptCommand → Option Bool
  | [first, opening, operator, w, closing] =>
    if [first, opening, operator, closing].map (·.spelled) =
        (["if", "[", "-n", "]"] : List Text) then
      some (w.parts.text values ≠ [])
    else none
  | _ => none

end ShellVariables

/-- Where a run stands: outside conditions, after one, or in its branch. -/
inductive ScriptPlace where
  | outside
  | asked (holds : Bool)
  | branch (holds : Bool)
  deriving DecidableEq, Repr

structure ScriptRun where
  place : ScriptPlace
  values : ShellVariables

namespace ScriptRun

/-- One more command. A branch that is not taken holds commands of the same kinds. -/
def step (r : ScriptRun) (c : ScriptCommand) : Option ScriptRun :=
  match r.place with
  | .outside =>
    match r.values.condition? c with
    | some holds => some { r with place := .asked holds }
    | none => (r.values.runSimple? c).map ({ r with values := · })
  | .asked holds =>
    if c.map (·.spelled) = [Text.ofString "then"] then some { r with place := .branch holds }
    else none
  | .branch holds =>
    if c.map (·.spelled) = [Text.ofString "fi"] then some { r with place := .outside }
    else (r.values.runSimple? c).map fun values => if holds then { r with values } else r

def finish (r : ScriptRun) : Option ShellVariables :=
  if r.place = .outside then some r.values else none

end ScriptRun

def Text.runScript? (script : Text) (values : ShellVariables) : Option ShellVariables := do
  let commands ← script.scriptCommands?
  let run ← commands.foldlM ScriptRun.step ⟨.outside, values⟩
  run.finish

end SandboxShell

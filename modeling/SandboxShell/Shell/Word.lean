import SandboxShell.Text.Basic

/-!
Words as a POSIX shell reads them. Blanks and newlines outside quotes end a word. Between single
quotes all is literal; between double quotes a backslash keeps a quote, a dollar sign, a backquote
or a backslash from its meaning, and a variable is replaced by its value. A reader of words
refuses what would be more than words: operators, substitutions, patterns, comments and open
quotes.
-/

namespace SandboxShell

inductive WordPart where
  | literal (s : Symbol)
  | variable (name : Text)
  deriving DecidableEq, Repr

abbrev ShellWord := List WordPart

def ShellWord.text (value : Text → Text) (word : ShellWord) : Text :=
  word.flatMap fun
    | .literal s => [s]
    | .variable name => value name

inductive Quoting where
  | bare
  /-- After a backslash outside quotes. -/
  | escaped
  | single
  | double
  /-- After a backslash between double quotes. -/
  | doubleEscaped
  /-- In the name of a variable between double quotes; the letters so far, the last one first. -/
  | name (letters : Text)
  deriving DecidableEq, Repr

structure WordReader where
  quoting : Quoting := .bare
  /-- The word that is being read, its last part first, unless the reader is between words. -/
  current : Option ShellWord := none
  /-- The words before, the last one first. -/
  done : List ShellWord := []
  deriving DecidableEq, Repr

namespace WordReader

def special : Text := "|&;<>()$`*?["

def specialFirst : Text := "#~"

/-- The symbols that a backslash between double quotes deprives of their meaning. -/
def escapable : Text := "$`\"\\"

def isLetter : Symbol → Bool
  | .char c => c.isAlpha || c = '_'
  | .lone _ => false

def isLetterOrDigit (s : Symbol) : Bool :=
  isLetter s || match s with
    | .char c => c.isDigit
    | .lone _ => false

def add (r : WordReader) (part : WordPart) : WordReader :=
  { r with current := some (part :: r.current.getD []) }

def enter (r : WordReader) (quoting : Quoting) : WordReader :=
  { r with quoting, current := some (r.current.getD []) }

def endWord (r : WordReader) : WordReader :=
  match r.current with
  | none => r
  | some parts => { r with current := none, done := parts.reverse :: r.done }

def stepBare (r : WordReader) (s : Symbol) : Option WordReader :=
  if s = .char ' ' ∨ s = .char '\t' ∨ s = .char '\n' then some r.endWord
  else if s = .char '\\' then some { r with quoting := .escaped }
  else if s = .char '\'' then some (r.enter .single)
  else if s = .char '"' then some (r.enter .double)
  else if s ∈ special ∨ (r.current = none ∧ s ∈ specialFirst) then none
  else some (r.add (.literal s))

def stepDouble (r : WordReader) (s : Symbol) : Option WordReader :=
  if s = .char '"' then some { r with quoting := .bare }
  else if s = .char '\\' then some { r with quoting := .doubleEscaped }
  else if s = .char '$' then some { r with quoting := .name [] }
  else if s = .char '`' then none
  else some (r.add (.literal s))

/-- One more symbol. A backslash and a newline after it are read as nothing. -/
def step (r : WordReader) (s : Symbol) : Option WordReader :=
  match r.quoting with
  | .bare => r.stepBare s
  | .escaped =>
    let r := { r with quoting := .bare }
    some (if s = .char '\n' then r else r.add (.literal s))
  | .single =>
    some (if s = .char '\'' then { r with quoting := .bare } else r.add (.literal s))
  | .double => r.stepDouble s
  | .doubleEscaped =>
    let r := { r with quoting := .double }
    if s = .char '\n' then some r
    else if s ∈ escapable then some (r.add (.literal s))
    else some ((r.add (.literal (.char '\\'))).add (.literal s))
  | .name letters =>
    if isLetter s ∨ (letters ≠ [] ∧ isLetterOrDigit s) then
      some { r with quoting := .name (s :: letters) }
    else if letters = [] then none
    else ({ r with quoting := .double }.add (.variable letters.reverse)).stepDouble s

def finish (r : WordReader) : Option (List ShellWord) :=
  if r.quoting = .bare then some r.endWord.done.reverse else none

end WordReader

def Text.shellWords? (t : Text) : Option (List ShellWord) :=
  (t.foldlM WordReader.step {}).bind WordReader.finish

end SandboxShell

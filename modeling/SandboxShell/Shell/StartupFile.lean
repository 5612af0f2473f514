import SandboxShell.Path.Lexical

/-!
The startup file of a session's shell. It has a section for the user's own startup file, one that
appends the parent's search path and marks the prompt, and one for each hook. A section stands
between two comment lines; one with nothing in it is left out.
-/

namespace SandboxShell

structure Section where
  title : Text
  body : Text
  deriving DecidableEq, Repr

def Section.text (s : Section) : Text :=
  "# Begin " ++ s.title ++ "\n\n" ++ s.body ++ "\n\n# End " ++ s.title ++ "\n"

structure StartupFile where
  /-- The user's own startup file, without blanks at its ends. -/
  ownText : Text
  /-- The path of that file, the title of its section. -/
  ownPath : Path
  userHook : Text
  planHook : Text
  /-- The mark in front of the prompt. -/
  promptMark : Text

namespace StartupFile

/-- Text between single quotes. Inside them nothing is expanded; a single quote itself is written
outside, with a backslash. -/
def singleQuoted (t : Text) : Text := "'" ++ Text.replaceChar '\'' "'\\''" t ++ "'"

/-- The line that puts a mark and a blank in front of the prompt. The variable is not exported, so
that programs started from the shell do not see it. -/
def promptLine (mark : Text) : Text := "PS1=" ++ singleQuoted (mark ++ " ") ++ "\"$PS1\""

def searchPathLines : List Text :=
  ["if [ -n \"$PARENT_PATH\" ]; then", "  export PATH=\"$PATH:$PARENT_PATH\"", "fi"]

def postInitLines (mark : Text) : List Text :=
  searchPathLines ++ (if mark = [] then [] else [promptLine mark])

def optional (title body : Text) : List Section := if body = [] then [] else [⟨title, body⟩]

def sections (f : StartupFile) : List Section :=
  optional f.ownPath f.ownText ++
    [⟨"boxsh Post-init Hook", Text.join "\n" (postInitLines f.promptMark)⟩] ++
    optional "Plan Init Hook" f.planHook ++ optional "User Init Hook" f.userHook

def text (f : StartupFile) : Text := Text.join "\n" (f.sections.map Section.text)

end StartupFile

end SandboxShell

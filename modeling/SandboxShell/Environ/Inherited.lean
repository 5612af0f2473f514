import SandboxShell.Environ.KeepList
import SandboxShell.Path.Lexical
import SandboxShell.Text.Blank

/-!
What a sandbox inherits. The search path of the parent shell goes along in a variable of its own,
cleaned of relative entries and of the directories of package profiles, which would shadow the
packages of the sandbox. The rest of the environment goes along as it is.
-/

namespace SandboxShell

namespace Environ

def profileDirectories (list : Text) : List Path := list.words.map Path.normalize

/-- Whether a path, as text, begins with one of `profiles`. A path that merely continues the name
of a profile directory counts too. -/
def isProfilePath (profiles : List Path) (p : Path) : Bool :=
  profiles.any fun d => Text.startsWith p d

def cleanEntries (searchPath : Text) (profiles : List Path) : List Path :=
  ((Text.splitOn ':' searchPath).map Path.normalize).filter fun p =>
    Path.isAbsolute p && !isProfilePath profiles p

def cleanSearchPath (searchPath : Text) (profiles : List Path) : Text :=
  Text.join ":" (cleanEntries searchPath profiles)

def profiles (e : Environ) : List Path := profileDirectories (e.value "NIX_PROFILES")

def handedPath (e : Environ) : Text := cleanSearchPath (e.value "PATH") e.profiles

/-- The entries that the sandbox tool gets: those of the environment, and after them three that win
over any of the same name. -/
def sessionEntries (e : Environ) : List Text :=
  e.entries.map (fun pair => entry pair.1 pair.2) ++
    [entry parentPath e.handedPath, entry "NIX_PROFILES" (Text.join " " e.profiles),
      entry sourcedMarker "1"]

end Environ

end SandboxShell

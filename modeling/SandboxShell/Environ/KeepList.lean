import SandboxShell.Environ.Basic

/-!
The keep list: the variables that a pure sandbox is told to keep. All others it strips.
-/

namespace SandboxShell

namespace Environ

/-- Set in the sandbox so that a login script does not prepare the package tools a second time. -/
def sourcedMarker : Text := "__ETC_PROFILE_NIX_SOURCED"

def parentPath : Text := "PARENT_PATH"

def keepList : List Text :=
  [ -- session
    "HOME", "OLDPWD", "PWD", "TERM", "TZ", "USER",
    -- locale
    "LC_ALL", "LANG", "LC_COLLATE", "LC_CTYPE", "LC_MESSAGES", "LC_MONETARY", "LC_NUMERIC",
    "LC_TIME",
    -- terminal programs
    "TERM_PROGRAM", "TERM_PROGRAM_VERSION", "SHLVL",
    -- terminals that resume a session
    "TERM_SESSION_ID", "SHELL_SESSIONS_DISABLE", "SECURITYSESSIONID",
    -- package tools
    parentPath, sourcedMarker, "NIX_SSL_CERT_FILE", "SSL_CERT_FILE" ]

def isKept (name : Text) : Bool := name ∈ keepList

def keepArguments (entries : List Text) : List Text :=
  ((entries.map entryName).filter isKept).flatMap fun name => [Text.ofString "--keep", name]

end Environ

end SandboxShell

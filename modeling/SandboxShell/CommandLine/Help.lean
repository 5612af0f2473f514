import SandboxShell.CommandLine.Switch

/-!
The texts that the command line shows about itself.
-/

namespace SandboxShell

namespace CommandLine

def usage : Text :=
  "usage: boxsh [-h] [-V] [-d] [--init-hook INIT_HOOK] [--tool TOOL] [nix_path]\n"

def versionText : Text := "boxsh 0.1.0\n"

/-- The lines of the help text after the usage line, laid out for 80 columns. -/
def helpLines : List Text :=
  [ "",
    "Start your own shell inside a sandboxed package environment",
    "",
    "positional arguments:",
    "  nix_path              Environment to start the shell in (default: shell.nix)",
    "",
    "options:",
    "  -h, --help            show this help message and exit",
    "  -V, --version         show program's version number and exit",
    "  -d, --debug           Enable debug logging",
    "  --init-hook INIT_HOOK",
    "                        Shell commands to run at startup, after your own",
    "                        shellrc",
    "  --tool TOOL           Sandbox tool to run (default: nix-shell)" ]

def help : Text := usage ++ Text.join "\n" helpLines ++ "\n"

def refusal (fault : Fault) : Text := usage ++ "boxsh: error: " ++ fault.message ++ "\n"

end CommandLine

end SandboxShell

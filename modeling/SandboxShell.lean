import SandboxShell.Text.Blank
import SandboxShell.Text.Utf8
import SandboxShell.Text.Quoted
import SandboxShell.Decimal.Digit
import SandboxShell.Decimal.Shortest
import SandboxShell.Path.Lexical
import SandboxShell.Table
import SandboxShell.Json.Reader
import SandboxShell.Session.Launch
import SandboxShell.Config.Load
import SandboxShell.CommandLine.Run
import SandboxShell.Main
import SandboxShell.Json.Writer
import SandboxShell.Shell.Word
import SandboxShell.Shell.Script
import SandboxShell.Proofs.Startup.Carried
import SandboxShell.Proofs.Session.Pointed
import SandboxShell.Proofs.CommandLine.Reported
import SandboxShell.Proofs.Shell.Intended
import SandboxShell.Proofs.CommandLine.Awaited
import SandboxShell.Proofs.CommandLine.Consumed
import SandboxShell.Proofs.CommandLine.Rooted
import SandboxShell.Proofs.Session.Arguments
import SandboxShell.Proofs.CommandLine.Course
import SandboxShell.Proofs.CommandLine.Precedence
import SandboxShell.Proofs.Environ.Profiles
import SandboxShell.Proofs.Startup.PostInit
import SandboxShell.Proofs.Startup.Failing
import SandboxShell.Proofs.Path.Final
import SandboxShell.Proofs.Shell.Naming
import SandboxShell.Proofs.Shell.Login
import SandboxShell.Proofs.CommandLine.Ordering
import SandboxShell.Proofs.CommandLine.Observed
import SandboxShell.Proofs.Startup.Inert
import SandboxShell.Proofs.Startup.Placed
import SandboxShell.Proofs.Config.Freed

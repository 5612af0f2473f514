import SandboxShell.Path.Lexical
import SandboxShell.Environ.Basic

/-!
Home directories in paths. A path that begins with a tilde step stands for one in a home directory:
that of the user for a bare tilde, that of a named account for a tilde and a name.
-/

namespace SandboxShell

structure Accounts where
  /-- The home of the account that runs the program. -/
  own : Option Path
  named : Table Path

namespace Accounts

/-- The home that a tilde with this name stands for. For the user's own, the variable `HOME` goes
before the account, even when it is empty. -/
def home? (accounts : Accounts) (environ : Environ) (name : Text) : Option Path :=
  if name = [] then (environ.find? "HOME").orElse fun _ => accounts.own
  else accounts.named.find? name

end Accounts

namespace Path

def withoutEndSlashes (p : Path) : Path :=
  let stem := (p.reverse.dropWhile (· == .char '/')).reverse
  if stem = [] then "/" else stem

end Path

namespace Route

/-- The route with a tilde step in front replaced by the home directory it stands for. There is none
for an unknown account, nor if the home directory itself begins with a tilde. -/
def expandHome? (accounts : Accounts) (environ : Environ) (r : Route) : Option Route :=
  match r.root, r.steps with
  | .current, (.char '~' :: name) :: rest => do
    let home := Path.withoutEndSlashes (← accounts.home? environ name)
    if Text.startsWith home "~" then none else some ((Path.route home).extend rest)
  | _, _ => some r

end Route

end SandboxShell

import SandboxShell.Text.Basic

/-!
Paths, looked at as text alone: no file is consulted. A path is read as a route, which is a root and
the named steps from it; empty steps and single dots mean nothing and are left out. Writing a route
gives the collapsed path, and writing it after each `..` has taken back the step before it gives the
normal form of the path.
-/

namespace SandboxShell

abbrev Path := Text

/-- What a path starts from: the current directory, the root, or the root written with two slashes,
which a system may treat in its own way. -/
inductive Root where
  | current
  | top
  | doubled
  deriving DecidableEq, Repr

def Root.text : Root → Text
  | .current => ""
  | .top => "/"
  | .doubled => "//"

structure Route where
  root : Root
  steps : List Text
  deriving DecidableEq, Repr

namespace Path

/-- Two slashes in front are a root of their own, any other number of them is one root. -/
def root : Path → Root
  | .char '/' :: .char '/' :: .char '/' :: _ => .top
  | .char '/' :: .char '/' :: _ => .doubled
  | .char '/' :: _ => .top
  | _ => .current

def steps (p : Path) : List Text :=
  (Text.splitOn '/' p).filter fun part => part ≠ [] ∧ part ≠ Text.ofString "."

def route (p : Path) : Route := ⟨root p, steps p⟩

def isAbsolute : Path → Bool
  | .char '/' :: _ => true
  | _ => false

end Path

namespace Route

def text (r : Route) : Path :=
  if r.root = .current ∧ r.steps = [] then "." else r.root.text ++ Text.join "/" r.steps

/-- Takes one more step after `done`, which holds the last step first. The step `..` takes back the
last one; with nothing to take back it stays, unless the root is reached, which is above itself. -/
def take (root : Root) (done : List Text) (step : Text) : List Text :=
  if step ≠ Text.ofString ".." then step :: done
  else match done with
    | [] => if root = .current then [step] else []
    | last :: earlier => if last = Text.ofString ".." then step :: done else earlier

def resolve (r : Route) : Route :=
  ⟨r.root, (r.steps.foldl (take r.root) []).reverse⟩

def extend (r : Route) (more : List Text) : Route := ⟨r.root, r.steps ++ more⟩

end Route

namespace Path

def normalize (p : Path) : Path := (route p).resolve.text

def baseName (p : Path) : Text := (p.reverse.takeWhile (· != .char '/')).reverse

/-- What stands before the last slash, without slashes at its end unless there is nothing else. -/
def dirName (p : Path) : Path :=
  let head := (p.reverse.dropWhile (· != .char '/')).reverse
  let stem := (head.reverse.dropWhile (· == .char '/')).reverse
  if stem = [] then head else stem

/-- The path `p` as seen from directory `d`; an absolute `p` is the same from everywhere. -/
def under (d p : Path) : Path :=
  if isAbsolute p then p
  else if d = [] ∨ d.getLast? = some (.char '/') then d ++ p
  else d ++ "/" ++ p

end Path

end SandboxShell

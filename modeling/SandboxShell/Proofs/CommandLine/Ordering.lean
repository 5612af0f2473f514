import SandboxShell.Proofs.CommandLine.Served
import SandboxShell.Proofs.Text.Pieces
import Mathlib.Data.List.Basic

/-!
Arguments in any order. Arguments that each say in full what they are play their parts wherever they
stand: a setting takes the text after its equals sign whatever is in it, and a word is never a
setting's value. What they ask for is whether there is a flag for the log among them, the last text
of each setting and the words in their order; so two lists that agree on these have the same run.
-/

namespace SandboxShell

namespace CommandLine

def Setting.spelling : Setting → Text
  | .initHook => "--init-hook"
  | .tool => "--tool"

/-- An argument that says in full what it is: a flag for the log, long or short, a setting with its
text, or a word. -/
inductive Item where
  | debug (long : Bool)
  | setting (s : Setting) (value : Text) (whole : value ≠ divider)
  | word (t : Text) (undashed : t.head? ≠ some (.char '-'))

namespace Item

def text : Item → Text
  | .debug long => if long then "--debug" else "-d"
  | .setting s value _ => s.spelling ++ "=" ++ value
  | .word t _ => t

def isDebug : Item → Bool
  | .debug _ => true
  | _ => false

def value? (s : Setting) : Item → Option Text
  | .setting t value _ => if t = s then some value else none
  | _ => none

def word? : Item → Option Text
  | .word t _ => some t
  | _ => none

def mark : Item → Mark
  | .debug long => .switch (.flag .debug) (if long then "--debug" else "-d") none
  | .setting s value _ => .switch (.setting s) s.spelling (some value)
  | .word _ _ => .word

end Item

namespace Progress

def after (p : Progress) (item : Item) : Progress where
  packages := p.packages.or item.word?
  planHook := (item.value? .initHook).or p.planHook
  tool := (item.value? .tool).getD p.tool
  debug := p.debug || item.isDebug
  leftOver := p.leftOver ++ if p.packages = none then [] else item.word?.toList
  awaiting := p.awaiting
  placed := p.packages.isNone && item.word?.isSome

end Progress

end CommandLine

end SandboxShell

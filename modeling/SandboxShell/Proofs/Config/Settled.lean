import SandboxShell.Proofs.Config.Loading
import SandboxShell.Proofs.Json.Object

/-!
The configuration that a file settles. Of the members of the file's object only those count that are
last of their name, and of these only three; a sandbox tool that a variable names goes before the
member of its name. A file that is not there settles what one without members does.
-/

namespace SandboxShell

namespace Config

def placeOf (h : Host) : Option Path → Except Fault Path
  | some path => (homeFile h).map fun _ => (Path.route path).text
  | none => (location h).map Route.text

theorem load_eq {h : Host} {path : Option Path} {place : Path}
    (placed : placeOf h path = .ok place) : load h path = loadFrom h place := by
  cases housed : homeFile h with
  | error fault =>
    cases path <;> simp [placeOf, location, housed, Except.map, bind, Except.bind] at placed
  | ok home =>
    cases path with
    | some path =>
      rw [placeOf, housed] at placed
      rw [load_some housed]
      exact congrArg _ (Except.ok.inj placed)
    | none =>
      rw [placeOf] at placed
      cases located : location h with
      | error fault =>
        rw [located] at placed
        cases placed
      | ok route =>
        rw [located] at placed
        rw [load_none housed located]
        exact congrArg _ (Except.ok.inj placed)

def settled (h : Host) (place : Path) (members : List (Text × Json)) : Except Fault Config :=
  (ofMembers (withTool h.environ members)).mapError (.invalid place)

variable {h : Host} {place : Path} {members : List (Text × Json)}

theorem loadFrom_value (read : (fileMembers h place).value = .ok members) :
    (loadFrom h place).value = settled h place members := by
  unfold loadFrom settled
  rw [Traced.value_bind, read]
  dsimp only
  cases ofMembers (withTool h.environ members) <;> rfl

theorem fileMembers_object {t : Text} (plain : t.Plain)
    (file : h.fileAt place = some (.bytes (Utf8.written t)))
    (read : Json.read h.nesting t.unifyNewlines = .ok (.object members)) :
    fileMembers h place = ⟨[.noted .config ("loaded config from " ++ place)], .ok members⟩ := by
  have decoded := Utf8.decodeStrict_eq_ok_iff.2 ⟨plain, rfl⟩
  unfold fileMembers readMembers
  rw [file]
  simp only [decoded, read]
  rfl

theorem loadFrom_tooDeep {t : Text} {opened : Json.Container} (plain : t.Plain)
    (file : h.fileAt place = some (.bytes (Utf8.written t)))
    (read : Json.read h.nesting t.unifyNewlines = .error (.tooDeep opened)) :
    (loadFrom h place).value = .error (.tooDeep opened) := by
  have decoded := Utf8.decodeStrict_eq_ok_iff.2 ⟨plain, rfl⟩
  unfold loadFrom fileMembers readMembers
  rw [file]
  simp only [decoded, read]
  rfl

theorem fileMembers_missing (missing : h.fileAt place = none) :
    fileMembers h place =
      ⟨[.noted .config ("no config at " ++ place ++ ", using defaults")], .ok []⟩ := by
  unfold fileMembers
  rw [missing]
  rfl

def toolOverride (environ : Environ) : Text := (environ.value "BOXSH_SANDBOX_TOOL").trim

theorem field_injective : ∀ f g : Field, f.name = g.name → f = g := by
  intro f g
  cases f <;> cases g <;> decide

theorem find?_withTool (environ : Environ) (members : List (Text × Json)) (f : Field) :
    Entries.find? f.name (withTool environ members) =
      if f = .tool ∧ toolOverride environ ≠ [] then some (.string (toolOverride environ))
      else Entries.find? f.name members := by
  unfold withTool
  change Entries.find? f.name (if toolOverride environ = [] then members
    else Entries.put Field.tool.name (.string (toolOverride environ)) members) = _
  split
  · rename_i unnamed
    rw [if_neg fun both => both.2 unnamed]
  · rename_i named
    rw [Entries.find?_put]
    by_cases isTool : f = .tool
    · rw [if_pos (congrArg Field.name isTool), if_pos ⟨isTool, named⟩]
    · rw [if_neg fun same => isTool (field_injective _ _ same), if_neg fun both => isTool both.1]

theorem ofMembers_eq_ok_iff {config : Config} :
    ofMembers members = .ok config ↔ ∀ f, setting members f = .ok (config.get f) := by
  unfold ofMembers
  constructor
  · intro made f
    split at made
    · rename_i tool userHook promptMark one two three
      obtain rfl := Except.ok.inj made
      cases f
      · exact one
      · exact two
      · exact three
    · cases made
  · intro each
    rw [each .tool, each .userHook, each .promptMark]
    rfl

theorem ofMembers_congr {others : List (Text × Json)}
    (same : ∀ f : Field, Entries.find? f.name members = Entries.find? f.name others) :
    ofMembers members = ofMembers others := by
  have settings : setting members = setting others := by
    funext f
    unfold setting
    rw [same]
  unfold ofMembers violations
  rw [settings]

theorem settled_congr {others : List (Text × Json)}
    (same : ∀ f : Field, Entries.find? f.name members = Entries.find? f.name others) :
    settled h place members = settled h place others := by
  have overridden : ∀ f : Field, Entries.find? f.name (withTool h.environ members) =
      Entries.find? f.name (withTool h.environ others) := by
    intro f
    rw [find?_withTool, find?_withTool, same]
  unfold settled
  rw [ofMembers_congr overridden]

theorem setting_string {f : Field} {t : Text}
    (given : Entries.find? f.name members = some (.string t)) : setting members f = .ok t := by
  unfold setting
  rw [given]

theorem settled_eq_ok_iff {config : Config} : settled h place members = .ok config ↔
    ∀ f, setting (withTool h.environ members) f = .ok (config.get f) := by
  rw [← ofMembers_eq_ok_iff]
  unfold settled
  cases ofMembers (withTool h.environ members) with
  | ok made => rw [Except.mapError, Except.ok.injEq, Except.ok.injEq]
  | error violations => exact iff_of_false (fun same => nomatch same) (fun same => nomatch same)

end Config

end SandboxShell

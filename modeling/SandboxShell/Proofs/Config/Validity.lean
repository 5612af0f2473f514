import SandboxShell.Proofs.Config.Settled

/-!
Which objects make up a configuration, and what it is. Each of the members that count has to be
absent or a string, but for the sandbox tool where a variable names one. An object that does not
make up a configuration is reported with the members that are no strings.
-/

namespace SandboxShell

namespace Config

/-- The members of the object in the file at a path as they stand in its text; none if there is no
such file. -/
inductive Provides (h : Host) (place : Path) : List (Text × Json) → Prop where
  | missing (absent : h.fileAt place = none) : Provides h place []
  | object {t : Text} {ps : List (Text × Json)} (plain : t.Plain)
      (file : h.fileAt place = some (.bytes (Utf8.written t)))
      (text : Json.ObjectText h.nesting t.unifyNewlines ps) : Provides h place ps

/-- The value under the name of a field: that of the last member with this name. -/
def counting (ps : List (Text × Json)) (f : Field) : Option Json :=
  Entries.find? f.name ps.reverse

def AbsentOrText (value : Option Json) : Prop := value = none ∨ ∃ t, value = some (.string t)

/-- The members make up a configuration, given the sandbox tool that a variable names. -/
structure Valid (environ : Environ) (ps : List (Text × Json)) : Prop where
  userHook : AbsentOrText (counting ps .userHook)
  promptMark : AbsentOrText (counting ps .promptMark)
  tool : AbsentOrText (counting ps .tool) ∨ toolOverride environ ≠ []

def Field.text (f : Field) : Option Json → Text
  | some (.string t) => t
  | _ => Config.get {} f

def given (ps : List (Text × Json)) (f : Field) : Text := f.text (counting ps f)

def chosen (environ : Environ) (ps : List (Text × Json)) : Config where
  tool := if toolOverride environ = [] then given ps .tool else toolOverride environ
  userHook := given ps .userHook
  promptMark := given ps .promptMark

/-- The same values count in both. -/
def Alike (ps qs : List (Text × Json)) : Prop := ∀ f, counting ps f = counting qs f

variable {h : Host} {place : Path} {environ : Environ} {ps qs : List (Text × Json)}

theorem Provides.members (provides : Provides h place ps) :
    ∃ message, fileMembers h place = ⟨[.noted .config message], .ok (Json.putAll [] ps)⟩ := by
  cases provides with
  | missing absent => exact ⟨_, fileMembers_missing absent⟩
  | object plain file text =>
    exact ⟨_, fileMembers_object plain file (Json.read_eq_object_iff.2 ⟨ps, text, rfl⟩)⟩

theorem setting_eq_ok_iff {members : List (Text × Json)} {f : Field} {t : Text} :
    setting members f = .ok t ↔
      AbsentOrText (Entries.find? f.name members) ∧ f.text (Entries.find? f.name members) = t := by
  unfold setting AbsentOrText
  cases Entries.find? f.name members with
  | none => simp [Field.text]
  | some v => cases v <;> simp [Field.text]

def supplied (environ : Environ) (ps : List (Text × Json)) (f : Field) : Option Json :=
  if f = .tool ∧ toolOverride environ ≠ [] then some (.string (toolOverride environ))
  else counting ps f

theorem find?_counting (ps : List (Text × Json)) (f : Field) :
    Entries.find? f.name (Json.putAll [] ps) = counting ps f := by
  rw [Json.find?_putAll]
  unfold counting
  cases Entries.find? f.name ps.reverse <;> rfl

theorem find?_supplied (environ : Environ) (ps : List (Text × Json)) (f : Field) :
    Entries.find? f.name (withTool environ (Json.putAll [] ps)) = supplied environ ps f := by
  rw [find?_withTool, find?_counting]
  rfl

theorem valid_iff : Valid environ ps ↔ ∀ f, AbsentOrText (supplied environ ps f) := by
  -- a variable supplies the tool, and nothing else
  have others {f : Field} (other : f ≠ .tool) : supplied environ ps f = counting ps f :=
    if_neg fun both => other both.1
  have named : AbsentOrText (supplied environ ps .tool) ↔
      AbsentOrText (counting ps .tool) ∨ toolOverride environ ≠ [] := by
    unfold supplied
    by_cases override : toolOverride environ = []
    · rw [if_neg fun both => both.2 override]
      exact (or_iff_left fun both => both override).symm
    · rw [if_pos ⟨rfl, override⟩]
      exact iff_of_true (.inr ⟨_, rfl⟩) (.inr override)
  constructor
  · rintro ⟨userHook, promptMark, tool⟩ f
    cases f with
    | tool => exact named.2 tool
    | userHook => rwa [others (by decide)]
    | promptMark => rwa [others (by decide)]
  · intro each
    have userHook := each .userHook
    have promptMark := each .promptMark
    rw [others (by decide)] at userHook promptMark
    exact ⟨userHook, promptMark, named.1 (each .tool)⟩

theorem chosen_get (environ : Environ) (ps : List (Text × Json)) (f : Field) :
    (chosen environ ps).get f = f.text (supplied environ ps f) := by
  cases f with
  | tool =>
    show (if toolOverride environ = [] then given ps .tool else toolOverride environ) = _
    unfold supplied
    by_cases override : toolOverride environ = []
    · rw [if_pos override, if_neg fun both => both.2 override]
      rfl
    · rw [if_neg override, if_pos ⟨rfl, override⟩]
      rfl
  | userHook | promptMark => rfl

theorem get_injective {c d : Config} (same : ∀ f, c.get f = d.get f) : c = d := by
  obtain ⟨tool, userHook, promptMark⟩ := c
  obtain rfl : tool = d.tool := same .tool
  obtain rfl : userHook = d.userHook := same .userHook
  obtain rfl : promptMark = d.promptMark := same .promptMark
  rfl

theorem settled_ok_iff {config : Config} :
    settled h place (Json.putAll [] ps) = .ok config ↔
      Valid h.environ ps ∧ chosen h.environ ps = config := by
  rw [settled_eq_ok_iff, valid_iff]
  simp only [setting_eq_ok_iff, find?_supplied, ← chosen_get]
  constructor
  · intro each
    exact ⟨fun f => (each f).1, get_injective fun f => (each f).2⟩
  · rintro ⟨fine, rfl⟩ f
    exact ⟨fine f, rfl⟩

def wrong (environ : Environ) (ps : List (Text × Json)) : List Violation :=
  Field.all.filterMap fun f =>
    match supplied environ ps f with
    | none | some (.string _) => none
    | some value => some ⟨f, value⟩

theorem violations_eq (environ : Environ) (ps : List (Text × Json)) :
    violations (withTool environ (Json.putAll [] ps)) = wrong environ ps := by
  unfold violations wrong
  congr 1
  funext f
  unfold setting
  rw [find?_supplied]
  cases supplied environ ps f with
  | none => rfl
  | some v => cases v <;> rfl

theorem settled_of_not_valid (invalid : ¬ Valid h.environ ps) :
    settled h place (Json.putAll [] ps) = .error (.invalid place (wrong h.environ ps)) := by
  cases made : ofMembers (withTool h.environ (Json.putAll [] ps)) with
  | ok config =>
    have settled : settled h place (Json.putAll [] ps) = .ok config := by
      unfold settled
      rw [made]
      rfl
    exact absurd (settled_ok_iff.1 settled).1 invalid
  | error vs =>
    have listed : vs = violations (withTool h.environ (Json.putAll [] ps)) := by
      unfold ofMembers at made
      split at made
      · cases made
      · exact (Except.error.inj made).symm
    unfold settled
    rw [made, listed, violations_eq]
    rfl

theorem Provides.load_value {path : Option Path} (provides : Provides h place ps)
    (placed : placeOf h path = .ok place) :
    (load h path).value = settled h place (Json.putAll [] ps) := by
  obtain ⟨message, members⟩ := provides.members
  rw [load_eq placed]
  exact loadFrom_value (congrArg Traced.value members)

theorem load_ok_iff {path : Option Path} {config : Config} (provides : Provides h place ps)
    (placed : placeOf h path = .ok place) :
    (load h path).value = .ok config ↔ Valid h.environ ps ∧ chosen h.environ ps = config := by
  rw [provides.load_value placed]
  exact settled_ok_iff

theorem load_of_not_valid {path : Option Path} (provides : Provides h place ps)
    (placed : placeOf h path = .ok place) (invalid : ¬ Valid h.environ ps) :
    (load h path).value = .error (.invalid place (wrong h.environ ps)) := by
  rw [provides.load_value placed]
  exact settled_of_not_valid invalid

/-- Members that do not count, and the order of the others, do not matter; and no file does as well
as one without members. -/
theorem load_value_congr {path : Option Path} {files : Table FileContent}
    (provides : Provides h place ps) (provides' : Provides { h with files } place qs)
    (placed : placeOf h path = .ok place) (alike : Alike ps qs) :
    (load { h with files } path).value = (load h path).value := by
  have placed' : placeOf { h with files } path = .ok place := placed
  rw [provides.load_value placed, provides'.load_value placed']
  refine settled_congr (h := { h with files }) fun f => ?_
  rw [find?_counting, find?_counting, alike f]

end Config

end SandboxShell

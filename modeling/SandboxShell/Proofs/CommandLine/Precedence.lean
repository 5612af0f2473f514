import SandboxShell.Proofs.Config.Validity
import SandboxShell.Proofs.Config.Stored
import SandboxShell.Proofs.CommandLine.Compared
import SandboxShell.Proofs.CommandLine.Complained

/-!
Which tool a run starts. The request comes first, then a variable, then the configuration file, and
then the default; but a request is only served with members that make up a configuration. Nothing
else in the file shows in a run, except that the log tells whether there is a file.
-/

namespace SandboxShell

open Config (Provides placeOf Valid chosen wrong toolOverride counting Alike)

/-- An event, but for the lines that the loader of the configuration adds to the log. -/
def Event.besideConfig : Event → Option Event
  | .noted .config _ => none
  | e => some e

theorem Config.load_seen (h : Host) (path : Option Path) :
    (load h path).seen Event.besideConfig = ⟨[], (load h path).value⟩ := by
  have hidden := (load_noted h path).filterMap_eq_nil (f := Event.besideConfig) fun _ => rfl
  exact congrArg (Traced.mk · _) hidden

/-- What the members in a file come to when the configuration is loaded from there. -/
structure Config.Governs (h : Host) (path : Option Path) (place : Path)
    (ps : List (Text × Json)) : Prop where
  succeeds : (∃ config, (load h path).value = .ok config) ↔ Valid h.environ ps
  config : ∀ config, (load h path).value = .ok config → config = chosen h.environ ps
  refuses : ¬ Valid h.environ ps →
    (load h path).value = .error (.invalid place (wrong h.environ ps))
  unknown : ∀ files qs, Provides { h with files } place qs → Alike ps qs →
    (load { h with files } path).value = (load h path).value

theorem Config.Provides.governs {h : Host} {path : Option Path} {place : Path}
    {ps : List (Text × Json)} (provides : Provides h place ps)
    (placed : placeOf h path = .ok place) : Governs h path place ps where
  succeeds := by
    constructor
    · rintro ⟨config, loaded⟩
      exact ((load_ok_iff provides placed).1 loaded).1
    · intro valid
      exact ⟨_, (load_ok_iff provides placed).2 ⟨valid, rfl⟩⟩
  config := fun config loaded => ((load_ok_iff provides placed).1 loaded).2.symm
  refuses := load_of_not_valid provides placed
  unknown := fun files qs provides' alike => load_value_congr provides provides' placed alike

namespace CommandLine

/-- The tool of a session: the one that the request asks for, or else the one that a variable names,
or else the one in the file, or else the default. -/
def toolFor (asked : Request) (environ : Environ) (ps : List (Text × Json)) : Text :=
  if asked.tool ≠ [] then asked.tool
  else if toolOverride environ ≠ [] then toolOverride environ
  else match counting ps .tool with
    | some (.string t) => t
    | _ => "nix-shell"

theorem configFor_chosen (asked : Request) (environ : Environ) (ps : List (Text × Json)) :
    (configFor asked (chosen environ ps)).tool = toolFor asked environ ps := by
  unfold configFor toolFor
  by_cases unasked : asked.tool = []
  · rw [if_pos unasked, if_neg (not_not_intro unasked)]
    show (if toolOverride environ = [] then Config.given ps .tool else toolOverride environ) = _
    rw [ite_not]
    rfl
  · rw [if_neg unasked, if_pos unasked]

/-- What the members in the configuration file come to in a run that is asked for a session. -/
structure Steers (h : Host) (arguments : List Text) (asked : Request) (place : Path)
    (ps : List (Text × Json)) : Prop where
  starts : Valid h.environ ps → h.Names (toolFor asked h.environ ps) asked.packages →
    ∃ invocation, (run h arguments).invocations = [invocation] ∧
      invocation.argv.head? = some (toolFor asked h.environ ps)
  names : Valid h.environ ps → h.Names (toolFor asked h.environ ps) asked.packages →
    (run h arguments).complaints = complaintsOf (toolFor asked h.environ ps) h.tool
  refuses : ¬ Valid h.environ ps → (run h arguments).invocations = [] ∧
    (run h arguments).outcome = .ok 1 ∧ (run h arguments).complaints =
      [complaintText (Config.Fault.invalid place (wrong h.environ ps)).message]
  unknown : ∀ files qs, Provides { h with files } place qs → Alike ps qs →
    (∀ other, other ≠ place → files.find? other = h.files.find? other) →
    ShellProfile.startupPathOf h.environ (.ofPath (h.environ.value "SHELL")) ≠ place →
    (run { h with files } arguments).seen Event.besideConfig =
      (run h arguments).seen Event.besideConfig

variable {h : Host} {arguments : List Text} {asked : Request} {place : Path}
  {ps qs : List (Text × Json)}

theorem run_of_valid (provides : Provides h place ps) (placed : placeOf h none = .ok place)
    (accepted : request arguments = .ok asked) (plain : ∀ a ∈ arguments, ¬ DividerAttached a)
    (valid : Valid h.environ ps) (names : h.Names (toolFor asked h.environ ps) asked.packages) :
    (∃ invocation, (run h arguments).invocations = [invocation] ∧
      invocation.argv.head? = some (toolFor asked h.environ ps)) ∧
    (run h arguments).complaints = complaintsOf (toolFor asked h.environ ps) h.tool := by
  have loaded := (Config.load_ok_iff provides placed).2 ⟨valid, rfl⟩
  have hooked := request_planHook accepted plain
  have quiet := Config.load_quiet h none
  have events := (run_accepted h accepted).1
  rw [serve_loaded asked loaded] at events
  unfold Report.invocations Report.complaints
  rw [events, List.filterMap_append, List.filterMap_append, quiet.invocations]
  rw [← configFor_chosen] at names ⊢
  constructor
  · obtain ⟨-, -, invocation, options, started, argv, -⟩ | ⟨fault, nameless | nameless, -⟩ :=
      runSession_ends names.forms asked (configFor asked (chosen h.environ ps)) hooked
    · exact ⟨invocation, started, congrArg List.head? argv⟩
    · cases names.tool.symm.trans nameless
    · cases names.packages.symm.trans nameless
  · have silent : (Config.load h none).events.filterMap Event.complaint? = [] :=
      Config.load_complaints h none
    rw [silent]
    exact runSession_complaints names hooked

theorem run_of_not_valid (provides : Provides h place ps) (placed : placeOf h none = .ok place)
    (accepted : request arguments = .ok asked) (invalid : ¬ Valid h.environ ps) :
    (run h arguments).invocations = [] ∧ (run h arguments).outcome = .ok 1 ∧
      (run h arguments).complaints =
        [complaintText (Config.Fault.invalid place (wrong h.environ ps)).message] := by
  have failed := Config.load_of_not_valid provides placed invalid
  obtain ⟨events, outcome⟩ := run_accepted h accepted
  rw [serve_reported asked failed rfl] at events outcome
  have silent : (Config.load h none).events.filterMap Event.complaint? = [] :=
    Config.load_complaints h none
  unfold Report.invocations Report.complaints
  rw [events, List.filterMap_append, List.filterMap_append, silent,
    (Config.load_quiet h none).invocations]
  exact ⟨rfl, outcome, rfl⟩

theorem run_alike {files : Table FileContent} (provides : Provides h place ps)
    (provides' : Provides { h with files } place qs) (placed : placeOf h none = .ok place)
    (alike : Alike ps qs) (same : ∀ other, other ≠ place → files.find? other = h.files.find? other)
    (apart : ShellProfile.startupPathOf h.environ (.ofPath (h.environ.value "SHELL")) ≠ place)
    (arguments : List Text) :
    (run { h with files } arguments).seen Event.besideConfig =
      (run h arguments).seen Event.besideConfig := by
  have loaded : (Config.load { h with files } none).seen Event.besideConfig =
      (Config.load h none).seen Event.besideConfig := by
    rw [Config.load_seen, Config.load_seen,
      Config.load_value_congr provides provides' placed alike]
  refine run_seen_congr arguments rfl loaded rfl fun asked config => ?_
  have tool : Host.tool { h with files } = h.tool := rfl
  apply Session.run_seen_congr _ _ _ _ tool rfl
  intro p found
  have detected := (Option.filter_eq_some_iff.1 found).1
  rw [profileFor_value] at detected
  obtain ⟨kind, -, startup⟩ := ShellProfile.detect?_eq detected
  have other : p.startupPath ≠ place := by
    rw [startup, kind]
    exact apart
  rw [Session.startup_files_congr h config (same _ other)]

/-- Where the tool of a session comes from, and when there is a session at all. -/
theorem config_precedence (h : Host) {place : Path} {ps : List (Text × Json)}
    (provides : Provides h place ps) :
    (∀ path, placeOf h path = .ok place → Config.Governs h path place ps) ∧
    (∀ arguments asked, placeOf h none = .ok place → request arguments = .ok asked →
      (∀ a ∈ arguments, ¬ DividerAttached a) → Steers h arguments asked place ps) := by
  refine ⟨fun path placed => provides.governs placed, ?_⟩
  intro arguments asked placed accepted plain
  exact {
    starts := fun valid names => (run_of_valid provides placed accepted plain valid names).1
    names := fun valid names => (run_of_valid provides placed accepted plain valid names).2
    refuses := run_of_not_valid provides placed accepted
    unknown := fun files qs provides' alike same apart =>
      run_alike provides provides' placed alike same apart arguments }

def maskedText : Text :=
  "\x7b\"user_init_hook\": null, \"sandbox_tool\": [],\r\n \"user_init_hook\": \"a\\u0062\"\x7d"

def maskedMembers : List (Text × Json) :=
  [("user_init_hook", .null), ("sandbox_tool", .array []), ("user_init_hook", .string "ab")]

theorem object_masked : Json.ObjectText 2 maskedText.unifyNewlines maskedMembers := by
  have last : Json.Takes 1 "\"user_init_hook\": \"a\\u0062\"\x7d"
      (.members [("user_init_hook", .string "ab")]) [] := .lastMember rfl rfl (.string rfl) rfl
  have first : Json.Takes 1 (maskedText.unifyNewlines.drop 1) (.members maskedMembers) [] :=
    .member rfl rfl (Json.takes_scalar _ rfl) rfl (.member rfl rfl (.noItems rfl) rfl last)
  exact ⟨[], .members (by decide) first, rfl⟩

/-- A machine with a bash and with a file in the place of the configuration, on which the tool ends
with status 3. There is room for two lists and objects inside one another. -/
def configured (tool : Text) (file : FileContent) : Host where
  environ := Table.ofList [("HOME", "/h"), ("SHELL", "/bin/bash"), ("BOXSH_SANDBOX_TOOL", tool)]
  files := Table.ofList [("/h/.boxsh/config.json", file)]
  nesting := 2
  tool := .exited 3

/-- The tool that a variable names makes up for the one in the file, and the one that the request
asks for does not, though it goes before both. A file without members does as well as none. -/
theorem config_precedence_masked :
    let h (tool : Text) : Host := configured tool (.bytes (Utf8.written maskedText))
    let bare : Host := configured "" (.bytes (Utf8.written "\x7b\x7d"))
    let arguments : List Text := ["--tool", "mine"]
    let asked : Request :=
      { packages := "shell.nix", planHook := some "", tool := "mine", debug := false }
    (∀ tool, Provides (h tool) "/h/.boxsh/config.json" maskedMembers) ∧
      request arguments = .ok asked ∧ (∀ a ∈ arguments, ¬ DividerAttached a) ∧
      (Config.load (h " alt\n") none).value = .ok { tool := "alt", userHook := "ab" } ∧
      (run (h " alt\n") arguments).complaints =
        [Text.ofString "Error: mine exited with status 3\n"] ∧
      (run (h " ") arguments).invocations = [] ∧ (run (h " ") arguments).outcome = .ok 1 ∧
      (run { bare with files := Table.empty } arguments).seen Event.besideConfig =
        (run bare arguments).seen Event.besideConfig := by
  intro h bare arguments asked
  have provides (tool : Text) : Provides (h tool) "/h/.boxsh/config.json" maskedMembers :=
    .object (Text.plain_ofString _) rfl object_masked
  have accepted : request arguments = .ok asked := by decide
  have plain : ∀ a ∈ arguments, ¬ DividerAttached a := by decide
  have valid : Valid (h " alt\n").environ maskedMembers :=
    ⟨.inr ⟨_, rfl⟩, .inl rfl, .inr (by decide)⟩
  have invalid : ¬ Valid (h " ").environ maskedMembers := by
    rintro ⟨-, -, (none | ⟨t, same⟩) | named⟩
    · cases none
    · cases same
    · exact named rfl
  obtain ⟨governs, steers⟩ := config_precedence (h " alt\n") (provides _)
  have started := (steers arguments asked rfl accepted plain).names valid
    ⟨Host.forms_usual rfl (by decide) rfl, by decide, by decide⟩
  obtain ⟨-, steers'⟩ := config_precedence (h " ") (provides _)
  obtain ⟨unstarted, status, -⟩ := (steers' arguments asked rfl accepted plain).refuses invalid
  obtain ⟨config, loaded⟩ := (governs none rfl).succeeds.2 valid
  have memberless : Provides bare "/h/.boxsh/config.json" [] :=
    .object (Text.plain_ofString _) rfl ⟨[], .empty rfl, rfl⟩
  have elsewhere : ∀ other : Path, other ≠ "/h/.boxsh/config.json" →
      Table.empty.find? other = bare.files.find? other := by
    intro other apart
    exact (Entries.find?_eq_none fun listed => apart (List.mem_singleton.1 listed)).symm
  have bareSteers := (config_precedence bare memberless).2 arguments asked rfl accepted plain
  refine ⟨provides, accepted, plain, ?_, started.trans (by decide), unstarted, status, ?_⟩
  · rw [loaded, (governs none rfl).config config loaded]
    exact congrArg Except.ok (by decide)
  · exact bareSteers.unknown Table.empty [] (.missing rfl) (fun _ => rfl) elsewhere (by decide)

/-- A value inside too many others ends the loading, though its member does not count. No file does
not quite as well as one without members: the log tells the two apart, and so does the session, if
the user's startup text is looked up in the same place. -/
theorem config_precedence_refused :
    let deep : Text := Json.written (.object [("x", Json.nested 991)])
    let file (t : Text) : FileContent := .bytes (Utf8.written t)
    let full : Host := { configured "" (file deep) with nesting := 991 }
    let bare : Host := { configured "" (file "\x7b\x7d") with files := Table.empty }
    let shared (files : Table FileContent) : Host :=
      { bare with
        environ := Table.ofList [("HOME", "/h"), ("SHELL", "/bin/bash"),
          ("BOXSH_CONFIG", "/h/.bashrc")],
        files }
    (deep.Plain ∧ ∃ ps, Json.ObjectText 993 deep.unifyNewlines ps ∧
      (∀ environ, Valid environ ps) ∧
      ∃ opened, (Config.load full none).value = .error (.tooDeep opened)) ∧
    (run (configured "" (file "\x7b\x7d")) ["-d"]).errors ≠ (run bare ["-d"]).errors ∧
    (run (shared (Table.ofList [("/h/.bashrc", file "\x7b\x7d")])) []).files ≠
      (run (shared Table.empty) []).files := by
  intro deep file full bare shared
  have within : Json.Within 993 (.object [("x", Json.nested 991)]) :=
    .object (List.forall_mem_singleton.2 ((Json.within_nested_iff _ _).2 (by decide)))
  have tooDeep : ¬ Json.Within full.nesting (.object [("x", Json.nested 991)]) := by
    rintro (_ | _ | _ | _ | _ | _ | inside)
    exact absurd ((Json.within_nested_iff _ _).1 (inside _ List.mem_cons_self)) (by decide)
  have shown := Json.shown_written within
  obtain ⟨ps, object, backs⟩ := Json.objectText_written within
  have uncounted (f : Config.Field) : counting ps f = none := by
    apply Entries.find?_eq_none
    rw [List.map_reverse, List.mem_reverse]
    intro listed
    obtain ⟨back, member, named⟩ := List.mem_map.1 listed
    obtain ⟨other, single, same, -⟩ := Json.exists_right backs.flip member
    obtain rfl := List.mem_singleton.1 single
    rw [named, Json.respelled_plain (Text.plain_ofString "x")] at same
    revert same
    cases f <;> decide
  have valid (environ : Environ) : Valid environ ps :=
    ⟨.inl (uncounted _), .inl (uncounted _), .inl (.inl (uncounted _))⟩
  have placed : placeOf full none = .ok (Text.ofString "/h/.boxsh/config.json") := rfl
  refine ⟨⟨shown.plain, ps, shown.unifyNewlines.symm ▸ object, valid,
    Config.load_deep placed within tooDeep rfl⟩, ?_, ?_⟩
  · decide +kernel
  · decide +kernel

end CommandLine

end SandboxShell

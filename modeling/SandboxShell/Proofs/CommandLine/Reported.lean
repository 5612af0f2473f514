import SandboxShell.Proofs.CommandLine.Served

/-!
Which configuration files end the program. It reports a file that cannot be opened, and one whose
text is no configuration; but on a file that is not readable, or in a place that cannot be looked at,
it ends without a status.
-/

namespace SandboxShell

namespace CommandLine

theorem runSession_ne_config (h : Host) (asked : Request) (config : Config) (fault : Config.Fault) :
    (runSession h asked config).value ≠ .error (.config fault) := by
  intro ended
  unfold runSession at ended
  rw [Traced.value_bind, Traced.value_bind] at ended
  split at ended
  · cases ended
  · split at ended <;> cases ended

theorem serve_escapes_iff (h : Host) (asked : Request) (fault : Config.Fault) :
    (serve h asked).value = .error (.config fault) ↔
      (Config.load h none).value = .error fault ∧ fault.isReported = false := by
  cases loading : (Config.load h none).value with
  | ok config =>
    rw [serve_loaded asked loading]
    exact iff_of_false (runSession_ne_config h asked _ fault) (fun both => nomatch both.1)
  | error other =>
    cases reported : other.isReported with
    | true =>
      rw [serve_reported asked loading reported]
      refine iff_of_false (fun ended => nomatch ended) ?_
      rintro ⟨same, unreported⟩
      obtain rfl := Except.error.inj same
      cases reported.symm.trans unreported
    | false =>
      rw [serve_unreported asked loading reported]
      constructor
      · intro ended
        obtain rfl := Escape.config.inj (Except.error.inj ended)
        exact ⟨rfl, reported⟩
      · rintro ⟨same, -⟩
        obtain rfl := Except.error.inj same
        rfl

/-- With a home directory, the loading of a configuration fails only with faults that are reported
just when it can be told whether there is a file, and the file is readable. The program then ends with
its complaint and status 1; on any other file it ends without a status. -/
theorem load_reported_iff (h : Host) {home : Route} (housed : Config.homeFile h = .ok home) :
    (∀ path, (∀ fault, (Config.load h (some path)).value = .error fault → fault.isReported = true) ↔
      Config.FileReadable h (Path.route path).text) ∧
    (∀ place arguments asked, Config.location h = .ok place → request arguments = .ok asked →
      ((∀ fault, (run h arguments).outcome ≠ .error (.config fault)) ↔
        Config.FileReadable h place.text)) ∧
    (∀ fault arguments asked, request arguments = .ok asked →
      (Config.load h none).value = .error fault → fault.isReported = true →
      (run h arguments).outcome = .ok 1 ∧ (run h arguments).events.getLast? =
        some (.complained ("Error: " ++ fault.message ++ "\n"))) := by
  refine ⟨?_, ?_, ?_⟩
  · intro path
    rw [Config.load_some housed]
    exact Config.loadFrom_reported_iff h _
  · intro place arguments asked placed accepted
    rw [(run_accepted h accepted).2, ← Config.loadFrom_reported_iff,
      ← Config.load_none housed placed]
    refine forall_congr' fun fault => ?_
    rw [ne_eq, serve_escapes_iff, not_and, Bool.not_eq_false]
  · intro fault arguments asked accepted failed reported
    obtain ⟨events, outcome⟩ := run_accepted h accepted
    rw [events, outcome, serve_reported asked failed reported]
    exact ⟨rfl, List.getLast?_concat⟩

def unreadableHost : Host where
  environ := Table.ofList [("HOME", "/h"), ("BOXSH_CONFIG", "/c.json")]
  files := Table.empty.put "/c.json" (.bytes [0xFF])
  nesting := 991

theorem homeFile_unreadableHost :
    Config.homeFile unreadableHost = .ok ⟨.top, ["h", ".boxsh", "config.json"]⟩ := rfl

theorem readMembers_byte (room : Nat) (path : Path) : Config.readMembers room path [0xFF] = .error
    (.undecodable { position := 0, width := 1, byte := 0xFF, reason := .start }) := by
  have decoded : Utf8.decode [0xFF] = [Utf8.stray 0xFF] := by
    rw [Utf8.decode_outside (by decide), Utf8.decode]
  unfold Config.readMembers Utf8.decodeStrict
  rw [decoded]
  rfl

theorem load_unreadableHost : (Config.load unreadableHost (some "/c.json")).value = .error
    (.undecodable { position := 0, width := 1, byte := 0xFF, reason := .start }) := by
  have place : (Path.route "/c.json").text = "/c.json" := by decide
  have file : unreadableHost.fileAt "/c.json" = some (.bytes [0xFF]) := by decide
  rw [Config.load_some homeFile_unreadableHost, place]
  unfold Config.loadFrom Config.fileMembers
  rw [Traced.value_bind, file]
  dsimp only
  rw [readMembers_byte]
  rfl

/-- The loading of a configuration can fail with a fault that is not reported. -/
theorem load_unreported :
    (∃ home, Config.homeFile unreadableHost = .ok home) ∧
      ∃ fault, (Config.load unreadableHost (some "/c.json")).value = .error fault ∧
        fault.isReported = false :=
  ⟨⟨_, homeFile_unreadableHost⟩, _, load_unreadableHost, rfl⟩

theorem load_reported_iff_byte :
    Config.homeFile unreadableHost = .ok ⟨.top, ["h", ".boxsh", "config.json"]⟩ ∧
      ¬ Config.FileReadable unreadableHost "/c.json" ∧
      ∃ fault, (run unreadableHost []).outcome = .error (.config fault) := by
  obtain ⟨loads, runs, -⟩ := load_reported_iff unreadableHost homeFile_unreadableHost
  have unreadable : ¬ Config.FileReadable unreadableHost "/c.json" := fun readable =>
    nomatch (loads "/c.json").2 readable _ load_unreadableHost
  refine ⟨homeFile_unreadableHost, unreadable, Classical.byContradiction fun none => unreadable ?_⟩
  exact (runs ⟨.top, ["c.json"]⟩ [] _ rfl rfl).1 (not_exists.1 none)

end CommandLine

end SandboxShell

import SandboxShell.Proofs.CommandLine.Compared
import SandboxShell.Proofs.Session.Pointed

/-!
The course of a machine on which startup files are written, sessions and the program are run and the
configuration is loaded, while all but its files may change in between. A step writes at most one
file, right under the directory that it has made for it. As long as no directory is made twice, and
none that was in use before, no file is ever written over: each keeps its content, and so do the
files that were there at the start.
-/

namespace SandboxShell

def Event.directory? : Event → Option Path
  | .madeDirectory path => some path
  | _ => none

theorem Path.slash_injective {d d' : Path} {name name' : Text} (isName : IsName name)
    (isName' : IsName name') (same : d ++ .char '/' :: name = d' ++ .char '/' :: name') :
    d = d' ∧ name = name' := by
  have names : name = name' := by
    rw [← baseName_slash d isName, same, baseName_slash d' isName']
  subst names
  exact ⟨List.append_cancel_right same, rfl⟩

/-- Events that write nothing, or one file right under the directory that they make for it. -/
inductive WritesFresh (h : Host) (events : List Event) : Prop where
  | nothing (unwritten : events.filterMap Event.file? = [])
  | one (name : Text) (content : Bytes) (isName : Path.IsName name)
      (free : h.directoryFault = none)
      (made : .madeDirectory (h.nextDirectory) ∈ events)
      (files : events.filterMap Event.file? =
        [(h.nextDirectory ++ .char '/' :: name, content)])

namespace ShellProfile

theorem writeStartup_writesFresh (h : Host) (p : ShellProfile) (mark : Text) :
    WritesFresh h (p.writeStartup h mark).events := by
  have way := p.writeStartup_writing h mark
  have quiet := p.preparation_quiet h
  have prepared : .madeDirectory (h.nextDirectory) ∈ p.preparation h :=
    List.mem_cons_self
  have place := p.sessionPath_eq h
  have isName := isName_startupName p.startupPath
  generalize p.writeStartup h mark = attempt at way
  cases way with
  | noPath | noDirectory => exact .nothing rfl
  | unnameable | hookWithoutText | notOpened => exact .nothing quiet.files
  | notEncoded _ ready =>
    refine .one _ [] isName ready.made (List.mem_append_left _ prepared) ?_
    rw [List.filterMap_append, quiet.files, ← place]
    rfl
  | notFinished _ ready count _ _ content =>
    refine .one _ (content.take count) isName ready.made (List.mem_append_left _ prepared) ?_
    rw [List.filterMap_append, quiet.files, ← place]
    rfl
  | done _ ready _ content =>
    refine .one _ content isName ready.made (List.mem_append_left _ prepared) ?_
    rw [List.filterMap_append, quiet.files, ← place]
    rfl

end ShellProfile

namespace Session

variable {h : Host} {packages : Text} {profile : Option ShellProfile} {config : Config}
  {environ : Environ}

theorem run_files_of_unneeded
    (unneeded : ∀ p, profile.filter (·.program ≠ []) = some p → ¬ NeedsStartup p) :
    (run h packages profile config environ).files = [] := by
  have planned : (plan h packages environ.sessionEntries profile config).files = [] := by
    unfold plan
    split
    · rfl
    · rename_i p found
      have idle : p.startupPath = [] ∨ p.kind = .unknown :=
        Decidable.byContradiction fun neither => unneeded p found (not_or.1 neither)
      unfold startup
      rw [if_pos idle]
      rfl
  unfold run
  rw [Traced.files_bind, Traced.files_note, Traced.files_bind, planned, List.nil_append]
  split
  · rfl
  · exact start_files h config _

theorem mem_events_run {p : ShellProfile} {e : Event}
    (found : profile.filter (·.program ≠ []) = some p) (needed : NeedsStartup p)
    (member : e ∈ (p.writeStartup h config.promptMark).events) :
    e ∈ (run h packages profile config environ).events := by
  unfold run plan startup
  rw [found]
  dsimp only
  rw [if_neg (not_or.2 needed)]
  simp only [Traced.events_bind, List.mem_append]
  exact .inr (.inl (.inl (.inl member)))

theorem run_writesFresh (h : Host) (packages : Text) (profile : Option ShellProfile)
    (config : Config) (environ : Environ) :
    WritesFresh h (run h packages profile config environ).events := by
  by_cases needs : ∃ p, profile.filter (·.program ≠ []) = some p ∧ NeedsStartup p
  · obtain ⟨p, found, needed⟩ := needs
    have files := run_files h packages profile config found needed environ
    cases p.writeStartup_writesFresh h config.promptMark with
    | nothing unwritten => exact .nothing (files.trans unwritten)
    | one name content isName free made written =>
      exact .one name content isName free (mem_events_run found needed made) (files.trans written)
  · exact .nothing (run_files_of_unneeded fun p found needed => needs ⟨p, found, needed⟩)

end Session

namespace CommandLine

theorem run_writesFresh (h : Host) (arguments : List Text) :
    WritesFresh h (run h arguments).events := by
  by_cases session : ∃ asked config, ComesTo h arguments asked config
  · obtain ⟨asked, config, comes⟩ := session
    have files := run_files comes
    obtain ⟨before, after, -, -, split⟩ := run_session comes
    cases Session.run_writesFresh h asked.packages (profileFor h asked (configFor asked config)).value
        (configFor asked config) h.environ with
    | nothing unwritten => exact .nothing (files.trans unwritten)
    | one name content isName free made written =>
      refine .one name content isName free ?_ (files.trans written)
      rw [split]
      exact List.mem_append_left _ (List.mem_append_right _ made)
  · exact .nothing (run_quiet session).files

end CommandLine

inductive Step where
  | writeStartup (profile : ShellProfile) (promptMark : Text)
  | session (packages : Text) (profile : Option ShellProfile) (config : Config) (environ : Environ)
  | program (arguments : List Text)
  | locateConfig
  | loadConfig (path : Option Path)
  /-- All becomes as on another machine, but for the files. -/
  | change (world : Host)

namespace Step

def events (h : Host) : Step → List Event
  | .writeStartup profile promptMark => (profile.writeStartup h promptMark).events
  | .session packages profile config environ =>
    (Session.run h packages profile config environ).events
  | .program arguments => (CommandLine.run h arguments).events
  | .loadConfig path => (Config.load h path).events
  | .locateConfig | .change _ => []

def files (h : Host) (step : Step) : List (Path × Bytes) :=
  (step.events h).filterMap Event.file?

def after (h : Host) (step : Step) : Host :=
  match step with
  | .change world => { world with files := h.files }
  | _ => h.afterAll (step.events h)

theorem writesFresh (h : Host) (step : Step) : WritesFresh h (step.events h) := by
  cases step with
  | writeStartup profile promptMark => exact profile.writeStartup_writesFresh h promptMark
  | session packages profile config environ =>
    exact Session.run_writesFresh h packages profile config environ
  | program arguments => exact CommandLine.run_writesFresh h arguments
  | loadConfig path => exact .nothing (Config.load_quiet h path).files
  | locateConfig | change => exact .nothing rfl

theorem files_after (h : Host) (step : Step) :
    (step.after h).files = h.files.putAll
      ((step.files h).map fun file => (file.1, .bytes file.2)) := by
  cases step with
  | change world => rfl
  | writeStartup | session | program | loadConfig | locateConfig => exact h.files_afterAll_eq _

end Step

namespace Course

def after (h : Host) (steps : List Step) : Host := steps.foldl Step.after h

def events (h : Host) : List Step → List Event
  | [] => []
  | step :: rest => step.events h ++ events (step.after h) rest

def written (h : Host) (steps : List Step) : List (Path × Bytes) :=
  (events h steps).filterMap Event.file?

def made (h : Host) (steps : List Step) : List Path :=
  (events h steps).filterMap Event.directory?

variable {h : Host} {steps : List Step}

theorem events_append (h : Host) (first last : List Step) :
    events h (first ++ last) = events h first ++ events (after h first) last := by
  induction first generalizing h with
  | nil => rfl
  | cons step first ih =>
    show step.events h ++ events (step.after h) (first ++ last) = _
    rw [ih, ← List.append_assoc]
    rfl

theorem written_cons (h : Host) (step : Step) (rest : List Step) :
    written h (step :: rest) = step.files h ++ written (step.after h) rest := List.filterMap_append

theorem made_cons (h : Host) (step : Step) (rest : List Step) :
    made h (step :: rest) =
      (step.events h).filterMap Event.directory? ++ made (step.after h) rest :=
  List.filterMap_append

theorem written_under {file : Path × Bytes} (member : file ∈ written h steps) :
    ∃ d ∈ made h steps, ∃ name, Path.IsName name ∧ file.1 = d ++ .char '/' :: name := by
  induction steps generalizing h with
  | nil => cases member
  | cons step rest ih =>
    rw [written_cons, List.mem_append] at member
    rw [made_cons]
    rcases member with here | later
    · cases step.writesFresh h with
      | nothing unwritten =>
        rw [Step.files, unwritten] at here
        cases here
      | one name content isName free directory files =>
        rw [Step.files, files] at here
        obtain rfl := List.mem_singleton.1 here
        exact ⟨_, List.mem_append_left _ (List.mem_filterMap.2 ⟨_, directory, rfl⟩), name, isName,
          rfl⟩
    · obtain ⟨d, directory, name, isName, place⟩ := ih later
      exact ⟨d, List.mem_append_right _ directory, name, isName, place⟩

theorem written_nodup (fresh : (made h steps).Nodup) :
    ((written h steps).map Prod.fst).Nodup := by
  induction steps generalizing h with
  | nil => exact List.nodup_nil
  | cons step rest ih =>
    rw [made_cons, List.nodup_append] at fresh
    obtain ⟨-, later, apart⟩ := fresh
    rw [written_cons, List.map_append]
    cases step.writesFresh h with
    | nothing unwritten =>
      rw [Step.files, unwritten]
      exact ih later
    | one name content isName free directory files =>
      rw [Step.files, files]
      refine List.nodup_cons.2 ⟨fun again => ?_, ih later⟩
      obtain ⟨file, member, place⟩ := List.mem_map.1 again
      obtain ⟨d, other, name', isName', under⟩ := written_under member
      have here : h.nextDirectory ∈ (step.events h).filterMap Event.directory? :=
        List.mem_filterMap.2 ⟨_, directory, rfl⟩
      exact apart _ here d other (Path.slash_injective isName isName' (place.symm.trans under)).1

theorem files_after (h : Host) (steps : List Step) :
    (after h steps).files = h.files.putAll
      ((written h steps).map fun file => (file.1, .bytes file.2)) := by
  induction steps generalizing h with
  | nil => rfl
  | cons step rest ih =>
    refine (ih (step.after h)).trans ?_
    rw [written_cons, Step.files_after, List.map_append]
    exact List.foldl_append.symm

/-- What holds of a course in which every directory that is made is fresh. -/
structure Unclobbered (h : Host) (steps : List Step) : Prop where
  distinct : ((written h steps).map Prod.fst).Nodup
  /-- A step writes at most one file, and none if its directory cannot be made. -/
  single : ∀ first step last, steps = first ++ step :: last →
    (step.files (after h first)).length ≤ 1 ∧
      ((after h first).directoryFault ≠ none → step.files (after h first) = [])
  /-- At any time, all files that were written by then hold what was written. -/
  lasting : ∀ first, first <+: steps → ∀ file ∈ written h first,
    (after h first).files.find? file.1 = some (.bytes file.2)
  /-- At any time, all files that were there at the start are unchanged. -/
  unchanged : ∀ first, first <+: steps → ∀ path ∈ h.files.names,
    (after h first).files.find? path = h.files.find? path

/-- If no directory is made twice, nor one with a file under it, then the startup files stay as they
were written, and all other files as they were. -/
theorem unclobbered (h : Host) (steps : List Step) (fresh : (made h steps).Nodup)
    (unused : ∀ d ∈ made h steps, ∀ path ∈ h.files.names, ¬ (d ++ [.char '/']) <+: path) :
    Unclobbered h steps := by
  -- what holds of all directories holds of those made by a given time
  have early {first : List Step} (before : first <+: steps) : made h first <+: made h steps := by
    obtain ⟨last, rfl⟩ := before
    unfold made
    rw [events_append, List.filterMap_append]
    exact List.prefix_append _ _
  have files (first : List Step) : (written h first).map Prod.fst =
      ((written h first).map fun file => (file.1, FileContent.bytes file.2)).map Prod.fst := by
    rw [List.map_map]
    rfl
  refine
    { distinct := written_nodup fresh
      single := ?_
      lasting := ?_
      unchanged := ?_ }
  · intro first step last _
    unfold Step.files
    cases step.writesFresh (after h first) with
    | nothing unwritten => exact ⟨unwritten ▸ Nat.zero_le 1, fun _ => unwritten⟩
    | one _ _ _ free _ written =>
      exact ⟨written ▸ Nat.le_refl 1, fun blocked => absurd free blocked⟩
  · intro first before file member
    have distinct := written_nodup (fresh.sublist (early before).sublist)
    rw [files] at distinct
    rw [files_after]
    exact Table.find?_putAll_of_mem _ distinct (List.mem_map.2 ⟨file, member, rfl⟩)
  · intro first before path present
    rw [files_after]
    apply Table.find?_putAll_of_not_mem
    rw [← files]
    intro again
    obtain ⟨file, member, rfl⟩ := List.mem_map.1 again
    obtain ⟨d, directory, name, -, place⟩ := written_under member
    refine unused d ((early before).subset directory) _ present ⟨name, ?_⟩
    rw [place, List.append_assoc]
    rfl

/-- A session inside another one starts from the startup file of that one, after two attempts that
came to nothing, one for want of a directory and one with a directory that stays empty. -/
theorem unclobbered_nested :
    let h : Host :=
      { environ := Table.ofList [("HOME", "/h"), ("SHELL", "/bin/bash")], nesting := 991,
        files := Table.ofList [("/h/.bashrc", .bytes [0x6c, 0x73, 0x0a])] }
    let inner : ShellProfile :=
      { kind := .bash, program := "/bin/bash", startupPath := "/tmp/boxsh0001/.bashrc" }
    let full : Host :=
      { h with
        directories := 1, directoryFault := some ⟨28, "No space left on device"⟩,
        tool := .exited 3 }
    let closed : Host :=
      { h with directories := 1, writing := fun _ => .refused ⟨13, "Permission denied"⟩ }
    let steps : List Step :=
      [.program [], .change full, .writeStartup inner "", .change closed, .writeStartup inner "",
        .change { h with directories := 2 }, .session "shell.nix" (some inner) {} h.environ,
        .loadConfig none]
    let directories : List Path := ["/tmp/boxsh0001", "/tmp/boxsh0002", "/tmp/boxsh0003"]
    let places : List Path := ["/tmp/boxsh0001/.bashrc", "/tmp/boxsh0003/.bashrc"]
    made h steps = directories ∧ (made h steps).Nodup ∧
      (∀ d ∈ made h steps, ∀ path ∈ h.files.names, ¬ (d ++ [.char '/']) <+: path) ∧
      (written h steps).map Prod.fst = places ∧
      (∀ file ∈ written h steps, (after h steps).files.find? file.1 = some (.bytes file.2)) ∧
      (after h steps).files.find? "/h/.bashrc" = some (.bytes [0x6c, 0x73, 0x0a]) := by
  intro h inner full closed steps directories places
  have listed : made h steps = directories := by decide +kernel
  have fresh : (made h steps).Nodup := listed ▸ by decide
  have unused : ∀ d ∈ made h steps, ∀ path ∈ h.files.names, ¬ (d ++ [.char '/']) <+: path :=
    listed ▸ by decide
  have kept := unclobbered h steps fresh unused
  exact ⟨listed, fresh, unused, by decide +kernel, kept.lasting steps (List.prefix_refl steps),
    kept.unchanged steps (List.prefix_refl steps) "/h/.bashrc" (by decide)⟩

end Course

end SandboxShell

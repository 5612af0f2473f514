import SandboxShell.Proofs.CommandLine.Compared
import SandboxShell.Proofs.Path.Absolute
import SandboxShell.Proofs.Startup.Outline
import SandboxShell.Proofs.Text.Trim

/-!
What a session owes to the current directory. If the environment gives no relative path, all files
that are looked up have absolute ones, with one exception: the name that is made up for the startup
file of a POSIX shell is looked up too. What lies there shows only in the bytes of the session's
startup file.
-/

namespace SandboxShell

/-- No relative path comes from the environment, and the home directory has an absolute one. -/
structure Host.Rooted (h : Host) : Prop where
  home : ∀ path, h.accounts.home? h.environ [] = some path → Path.isAbsolute path = true
  startup : ∀ path, h.environ.find? "ENV" = some path → path = [] ∨ Path.isAbsolute path = true
  config : ∀ path, h.environ.find? "BOXSH_CONFIG" = some path → Path.isAbsolute path = true

def Host.WritesWhole (h : Host) : Prop := ∀ path count fault, h.writing path ≠ .broken count fault

namespace Path

theorem isAbsolute_withoutEndSlashes {p : Path} (absolute : isAbsolute p = true) :
    isAbsolute (withoutEndSlashes p) = true := by
  unfold withoutEndSlashes
  dsimp only
  split
  · rfl
  · rename_i somewhere
    exact isAbsolute_of_prefix absolute (List.rdropWhile_prefix _ p) somewhere

theorem isAbsolute_trim {p : Path} (absolute : isAbsolute p = true) :
    isAbsolute (Text.trim p) = true := by
  obtain ⟨lead, trail, leading, trailing, split⟩ := Text.exists_blanks_around p
  have slash {t : Text} (front : t.head? = some (.char '/')) : ¬ ∀ s ∈ t, s.isBlank = true := by
    intro blanks
    exact absurd (blanks _ (List.mem_of_head? front)) (by decide)
  rw [isAbsolute_iff] at absolute ⊢
  rw [split, List.append_assoc, List.head?_append] at absolute
  cases first : lead.head? with
  | some s =>
    rw [first] at absolute
    exact absurd leading (slash (first.trans absolute))
  | none =>
    rw [first, Option.none_or, List.head?_append] at absolute
    cases second : (Text.trim p).head? with
    | some s =>
      rw [second] at absolute
      exact absolute
    | none =>
      rw [second, Option.none_or] at absolute
      exact absurd trailing (slash absolute)

end Path

variable {h : Host} {files : Table FileContent}

namespace Config

theorem homeFile_rooted (rooted : h.Rooted) {home : Route} (housed : homeFile h = .ok home) :
    home.root ≠ .current := by
  rw [homeFile_eq] at housed
  cases told : h.accounts.homeRoute? h.environ [] with
  | none =>
    rw [told] at housed
    cases housed
  | some directory =>
    rw [told] at housed
    obtain rfl := Except.ok.inj housed
    obtain ⟨path, found, told⟩ := Option.bind_eq_some_iff.1 told
    split at told
    · cases told
    · obtain rfl := Option.some.inj told
      exact Path.root_ne_current (Path.isAbsolute_withoutEndSlashes (rooted.home path found))

theorem location_rooted (rooted : h.Rooted) {place : Route} (placed : location h = .ok place) :
    place.root ≠ .current := by
  unfold location at placed
  cases housed : homeFile h with
  | error fault => simp [housed, bind, Except.bind] at placed
  | ok home =>
    simp only [housed, bind, Except.bind] at placed
    split at placed
    · obtain rfl := Except.ok.inj placed
      exact homeFile_rooted rooted housed
    · rename_i named
      have absolute : Path.isAbsolute (h.environ.value "BOXSH_CONFIG").trim = true := by
        unfold Environ.value at named ⊢
        cases found : h.environ.find? "BOXSH_CONFIG" with
        | none =>
          rw [found] at named
          exact absurd rfl named
        | some path => exact Path.isAbsolute_trim (rooted.config path found)
      have away := Path.root_ne_current absolute
      rw [Route.expandHome?_of_plain _ _ (Route.tilde?_of_rooted away)] at placed
      obtain rfl := Except.ok.inj placed
      exact away

theorem load_files (rooted : h.Rooted)
    (same : ∀ path, Path.isAbsolute path = true → files.find? path = h.files.find? path) :
    load { h with files } none = load h none := by
  have home : homeFile { h with files } = homeFile h := rfl
  have place : location { h with files } = location h := rfl
  have file {path : Path} (absolute : Path.isAbsolute path = true) :
      loadFrom { h with files } path = loadFrom h path := by
    have found : Host.fileAt { h with files } path = h.fileAt path := by
      unfold Host.fileAt
      dsimp only
      rw [same path absolute]
    unfold loadFrom fileMembers
    rw [found]
  unfold load
  rw [home, place]
  cases homeFile h with
  | error fault => rfl
  | ok home =>
    cases placed : location h with
    | error fault => rfl
    | ok place => exact file (Route.isAbsolute_text (location_rooted rooted placed))

end Config

namespace ShellProfile

/-- The shell is a POSIX shell, and no startup file is named, so that a name is made up. -/
def MadeUp (environ : Environ) : Prop :=
  ShellKind.ofPath (environ.value "SHELL") = .posix ∧ environ.value "ENV" = []

theorem homeFile_rooted (rooted : h.Rooted) (name : Text) :
    homeFile h.environ name = [] ∨ Path.isAbsolute (homeFile h.environ name) = true := by
  unfold homeFile Environ.value
  dsimp only
  split
  · exact .inl rfl
  · rename_i housed
    cases found : h.environ.find? "HOME" with
    | none =>
      rw [found] at housed
      exact absurd rfl housed
    | some home =>
      have known : h.accounts.home? h.environ [] = some home := by
        unfold Accounts.home?
        rw [if_pos rfl, found]
        rfl
      exact .inr (Path.isAbsolute_under (rooted.home home known) name)

theorem startupPathOf_rooted (rooted : h.Rooted) (kind : ShellKind) :
    startupPathOf h.environ kind = [] ∨ Path.isAbsolute (startupPathOf h.environ kind) = true ∨
      kind = .posix ∧ h.environ.value "ENV" = [] := by
  cases kind with
  | bash | zsh | ksh => exact (homeFile_rooted rooted _).imp_right .inl
  | unknown => exact .inl rfl
  | posix =>
    unfold startupPathOf Environ.value
    dsimp only
    split
    · exact .inr (.inr ⟨rfl, ‹_›⟩)
    · rename_i named
      cases found : h.environ.find? "ENV" with
      | none =>
        rw [found] at named
        exact absurd rfl named
      | some path =>
        rcases rooted.startup path found with empty | absolute
        · exact .inl empty
        · exact .inr (.inl absolute)

/-- The startup file of a detected shell has an absolute path, if there is one, or the name that is
made up. -/
theorem detect?_rooted (rooted : h.Rooted) {settings : List HookSetting} {p : ShellProfile}
    (found : detect? h.environ settings = some p) :
    p.startupPath = [] ∨ Path.isAbsolute p.startupPath = true ∨
      MadeUp h.environ ∧ p.kind = .posix ∧ p.startupPath = defaultPosixStartup := by
  obtain ⟨kind, -, place⟩ := detect?_eq found
  rw [place]
  rcases startupPathOf_rooted rooted p.kind with unknown | absolute | ⟨posix, unnamed⟩
  · exact .inl unknown
  · exact .inr (.inl absolute)
  · refine .inr (.inr ⟨⟨kind.symm.trans posix, unnamed⟩, posix, ?_⟩)
    rw [posix]
    exact if_pos unnamed

theorem MadeUp.profile {environ : Environ} (madeUp : MadeUp environ)
    (settings : List HookSetting) :
    ∃ p, (detect? environ settings).filter (·.program ≠ []) = some p ∧
      p.startupPath = defaultPosixStartup ∧ Session.NeedsStartup p := by
  have named : environ.value "SHELL" ≠ [] := by
    intro nameless
    have kind := madeUp.1
    rw [nameless] at kind
    exact absurd kind (by decide)
  obtain ⟨p, found⟩ := Option.ne_none_iff_exists'.1 ((detect?_filter environ settings).2 named)
  obtain ⟨kind, -, place⟩ := detect?_eq (Option.filter_eq_some_iff.1 found).1
  have posix : p.kind = .posix := kind.trans madeUp.1
  have made : p.startupPath = defaultPosixStartup := by
    rw [place, posix]
    exact if_pos madeUp.2
  refine ⟨p, found, made, ?_, ?_⟩
  · rw [made]
    decide
  · rw [posix]
    decide

end ShellProfile

namespace Session

theorem startup_of_absolute {p : ShellProfile}
    (same : ∀ path, Path.isAbsolute path = true → files.find? path = h.files.find? path)
    (known : p.startupPath = [] ∨ Path.isAbsolute p.startupPath = true) (config : Config) :
    startup { h with files } p config = startup h p config := by
  rcases known with unknown | absolute
  · unfold startup
    rw [if_pos (.inl unknown), if_pos (.inl unknown)]
  · exact startup_files_congr h config (same _ absolute)

theorem startup_seen (h : Host) {p : ShellProfile} (needed : NeedsStartup p) (config : Config) :
    (startup h p config).seen Event.outline =
      ⟨(p.writeStartup h config.promptMark).events.filterMap Event.outline,
        ShellProfile.goingOn (p.writeStartup h config.promptMark).value⟩ := by
  unfold startup Traced.seen
  rw [if_neg (not_or.2 needed), Traced.events_bind, Traced.value_bind, List.filterMap_append]
  cases (p.writeStartup h config.promptMark).value with
  | ok path => exact congrArg (Traced.mk · _) (List.append_nil _)
  | error fault =>
    unfold ShellProfile.goingOn
    dsimp only
    split <;> exact congrArg (Traced.mk · _) (List.append_nil _)

theorem startup_outline {p : ShellProfile} (path : (Path.normalize p.startupPath).Writable)
    (config : Config) :
    (startup { h with files } p config).seen Event.outline =
      (startup h p config).seen Event.outline := by
  by_cases needed : NeedsStartup p
  · obtain ⟨events, value⟩ := (p.writeStartup_writing h config.promptMark).outline
    obtain ⟨events', value'⟩ := (p.writeStartup_writing { h with files } config.promptMark).outline
    have writable (plan : Text) :=
      ShellProfile.writable_sessionText_congr h files p config.promptMark plan path
    simp only [writable] at value'
    rw [startup_seen h needed, startup_seen _ needed, events, value, events', value']
    rfl
  · have unneeded : p.startupPath = [] ∨ p.kind = .unknown :=
      Decidable.byContradiction fun neither => needed (not_or.1 neither)
    unfold startup
    rw [if_pos unneeded, if_pos unneeded]

end Session

namespace CommandLine

/-- Runs on hosts with the same files under absolute paths look the same through a view in which the
making of their startup files does. -/
theorem run_files_congr {view : Event → Option Event} (rooted : h.Rooted)
    (same : ∀ path, Path.isAbsolute path = true → files.find? path = h.files.find? path)
    (started : ∀ settings p config, ShellProfile.detect? h.environ settings = some p →
      (Session.startup { h with files } p config).seen view =
        (Session.startup h p config).seen view) (arguments : List Text) :
    (run { h with files } arguments).seen view = (run h arguments).seen view := by
  refine run_seen_congr arguments rfl (congrArg _ (Config.load_files rooted same)) rfl
    fun asked config => ?_
  have tool : Host.tool { h with files } = h.tool := rfl
  apply Session.run_seen_congr _ _ _ _ tool rfl
  intro p found
  have detected := (Option.filter_eq_some_iff.1 found).1
  rw [profileFor_value] at detected
  exact started _ p config detected

def WritesMadeUp (h : Host) (arguments : List Text) : Prop :=
  ShellProfile.MadeUp h.environ ∧
    ∃ path content, (path, content) ∈ (run h arguments).files ∧ content ≠ []

def carriedMadeUp (h : Host) : Bytes :=
  match (ShellProfile.readOwnStartup h ShellProfile.defaultPosixStartup).value with
  | .ok own => Utf8.written own.trim
  | .error _ => []

theorem carriedMadeUp_eq (h : Host) {p : ShellProfile}
    (place : p.startupPath = ShellProfile.defaultPosixStartup) :
    carriedMadeUp h = Utf8.written (p.ownText h).trim := by
  unfold carriedMadeUp ShellProfile.readOwnStartup ShellProfile.ownText
  rw [place]
  cases h.read ShellProfile.defaultPosixStartup with
  | ok content => rfl
  | error fault => cases fault <;> rfl

theorem writable_madeUp : (Path.normalize ShellProfile.defaultPosixStartup).Writable := by
  unfold Text.Writable
  decide

theorem run_files_congr_iff (rooted : h.Rooted)
    (same : ∀ path, Path.isAbsolute path = true → files.find? path = h.files.find? path)
    (madeUp : ShellProfile.MadeUp h.environ) (arguments : List Text) :
    let carried := WritesMadeUp h arguments → carriedMadeUp { h with files } = carriedMadeUp h
    let equal := (run { h with files } arguments).files = (run h arguments).files
    (carried → equal) ∧ (h.WritesWhole → equal → carried) := by
  have load := Config.load_files rooted same
  by_cases session : ∃ asked config, ComesTo h arguments asked config
  · obtain ⟨asked, config, comes⟩ := session
    have comes' : ComesTo { h with files } arguments asked config := ⟨comes.1, load ▸ comes.2⟩
    obtain ⟨p, found, place, needed⟩ := madeUp.profile [.plan asked.planHook,
      .user (configFor asked config).userHook]
    rw [← profileFor_value h asked] at found
    have one := (run_files comes).trans (Session.run_files h asked.packages _ _ found needed _)
    have two := (run_files comes').trans (Session.run_files _ asked.packages _ _ found needed _)
    have path : (Path.normalize p.startupPath).Writable := place ▸ writable_madeUp
    unfold WritesMadeUp
    rw [one, two, carriedMadeUp_eq h place, carriedMadeUp_eq _ place, and_iff_right madeUp]
    exact ⟨ShellProfile.writeStartup_files_of_carried files path, fun whole =>
      ShellProfile.carried_of_writeStartup_files path (whole (p.sessionPath h))⟩
  · have session' : ¬ ∃ asked config, ComesTo { h with files } arguments asked config := by
      unfold ComesTo at session ⊢
      rw [load]
      exact session
    have none : (run h arguments).files = [] := (run_quiet session).files
    have none' : (run { h with files } arguments).files = [] := (run_quiet session').files
    rw [none, none']
    refine ⟨fun _ => rfl, ?_⟩
    rintro - - ⟨-, path, content, written, -⟩
    rw [none] at written
    cases written

/-- Of the files in the current directory, and of all others that have no absolute path, a run can
see only one with the made-up name. It shows nowhere but in the bytes of the session's startup file,
and it shows there just when something else is carried over, provided that no writing breaks off. -/
theorem run_rooted_iff (h : Host) (files : Table FileContent) (arguments : List Text)
    (rooted : h.Rooted)
    (same : ∀ path, Path.isAbsolute path = true → files.find? path = h.files.find? path) :
    let one := run h arguments
    let two := run { h with files } arguments
    two.outcome = one.outcome ∧ two.invocations = one.invocations ∧
      two.files.map Prod.fst = one.files.map Prod.fst ∧
      ((WritesMadeUp h arguments → carriedMadeUp { h with files } = carriedMadeUp h) →
        two.files = one.files) ∧
      (h.WritesWhole → two.files = one.files →
        WritesMadeUp h arguments → carriedMadeUp { h with files } = carriedMadeUp h) := by
  intro one two
  have alike : two.seen Event.outline = one.seen Event.outline := by
    apply run_files_congr rooted same
    intro settings p config found
    rcases ShellProfile.detect?_rooted rooted found with unknown | absolute | ⟨-, -, madeUp⟩
    · rw [Session.startup_of_absolute same (.inl unknown)]
    · rw [Session.startup_of_absolute same (.inr absolute)]
    · exact Session.startup_outline (madeUp ▸ writable_madeUp) config
  refine ⟨(Report.seen_eq_iff.1 alike).2.2, ?_, ?_, ?_⟩
  · exact Report.filterMap_congr alike fun e => by cases e <;> rfl
  · unfold Report.files
    rw [List.map_filterMap, List.map_filterMap]
    exact Report.filterMap_congr alike fun e => by cases e <;> rfl
  · by_cases madeUp : ShellProfile.MadeUp h.environ
    · exact run_files_congr_iff rooted same madeUp arguments
    · -- every file that is looked up has an absolute path, so that the runs are one
      have whole : two.seen some = one.seen some := by
        apply run_files_congr rooted same
        intro settings p config found
        rcases ShellProfile.detect?_rooted rooted found with unknown | absolute | ⟨other, -⟩
        · rw [Session.startup_of_absolute same (.inl unknown)]
        · rw [Session.startup_of_absolute same (.inr absolute)]
        · exact absurd other madeUp
      have events : two.events = one.events := by
        have seen := (Report.seen_eq_iff.1 whole).1
        rwa [List.filterMap_some, List.filterMap_some] at seen
      refine ⟨fun _ => ?_, fun _ _ writes => absurd writes.1 madeUp⟩
      unfold Report.files
      rw [events]

theorem same_of_relative {one two : Table FileContent}
    (relative : ∀ path ∈ one.names ++ two.names, Path.isAbsolute path = false) :
    ∀ path, Path.isAbsolute path = true → one.find? path = two.find? path := by
  intro path absolute
  have missing : path ∉ one.names ++ two.names := fun member =>
    Bool.false_ne_true ((relative path member).symm.trans absolute)
  rw [List.mem_append, not_or] at missing
  unfold Table.find?
  rw [Entries.find?_eq_none missing.1, Entries.find?_eq_none missing.2]

def unnamedHost : Host where
  environ := Table.ofList [("SHELL", "/bin/sh"), ("HOME", "/h"), ("BOXSH_CONFIG", "/c\n")]
  files := Table.ofList [(".shinit", .bytes [0x78])]
  nesting := 991

theorem rooted_unnamedHost : unnamedHost.Rooted where
  home := by
    intro path found
    have home : unnamedHost.accounts.home? unnamedHost.environ [] = some (Text.ofString "/h") := rfl
    obtain rfl := Option.some.inj (home.symm.trans found)
    rfl
  startup := by
    intro path found
    have unnamed : unnamedHost.environ.find? "ENV" = none := by decide
    cases unnamed.symm.trans found
  config := by
    intro path found
    have named : unnamedHost.environ.find? "BOXSH_CONFIG" = some (Text.ofString "/c\n") := by decide
    obtain rfl := Option.some.inj (named.symm.trans found)
    rfl

/-- Blanks around what is carried over show nowhere, and neither does another file. -/
theorem run_rooted_blanks :
    let files : Table FileContent :=
      Table.ofList [("shell.nix", .refused .noFile), (".shinit", .bytes [0x20, 0x78, 0x0A])]
    unnamedHost.Rooted ∧
      (∀ path, Path.isAbsolute path = true → files.find? path = unnamedHost.files.find? path) ∧
      WritesMadeUp unnamedHost [] ∧
      (run { unnamedHost with files } []).invocations = (run unnamedHost []).invocations ∧
      (run { unnamedHost with files } []).files = (run unnamedHost []).files := by
  intro files
  have same : ∀ path, Path.isAbsolute path = true →
      files.find? path = unnamedHost.files.find? path := same_of_relative (by decide)
  obtain ⟨-, invocations, -, bytes, -⟩ :=
    run_rooted_iff unnamedHost files [] rooted_unnamedHost same
  have carried : carriedMadeUp { unnamedHost with files } = carriedMadeUp unnamedHost := by
    decide +kernel
  have written : (run unnamedHost []).files ≠ [] ∧
      ∀ file ∈ (run unnamedHost []).files, file.2 ≠ [] := by decide +kernel
  obtain ⟨file, listed⟩ := List.exists_mem_of_ne_nil _ written.1
  exact ⟨rooted_unnamedHost, same, ⟨⟨by decide, by decide⟩, file.1, file.2, listed,
    written.2 file listed⟩, invocations, bytes fun _ => carried⟩

/-- A file with the made-up name is carried over into the session. -/
theorem run_reads_madeUp :
    unnamedHost.Rooted ∧
      (∀ path, Path.isAbsolute path = true →
        Table.empty.find? path = unnamedHost.files.find? path) ∧
      (run { unnamedHost with files := Table.empty } []).files ≠ (run unnamedHost []).files :=
  ⟨rooted_unnamedHost, same_of_relative (by decide), by decide +kernel⟩

end CommandLine

end SandboxShell

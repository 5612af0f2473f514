import SandboxShell.Proofs.Environ.Handed
import SandboxShell.Proofs.CommandLine.Compared

/-!
The arguments of the sandbox tool, read back. A reader that goes from switch to switch finds in them
the tool, the command, the names to keep and the packages as they were put in, whatever these look
like. The names to keep are the names on the keep list that the tool's environment has.
-/

namespace SandboxShell

namespace Environ

/-- The variables that are put in win over any of the same name, even over one whose own name holds
an equals sign and is cut there. -/
theorem find?_handed_sessionPairs (e : Environ) :
    ∀ pair ∈ e.sessionPairs, e.handed.find? pair.1 = some pair.2 := by
  have distinct : (e.sessionPairs.map Prod.fst).Nodup := (by decide : sessionNames.Nodup)
  have parts : e.sessionPairs.map (fun pair =>
      (entryName (entry pair.1 pair.2), entryValue (entry pair.1 pair.2))) = e.sessionPairs := by
    refine (List.map_congr_left fun pair member => ?_).trans (List.map_id _)
    have unmarked : Symbol.char '=' ∉ pair.1 := unmarked_of_mem_session (List.mem_map_of_mem member)
    exact Prod.ext (entryName_entry _ unmarked) (entryValue_entry _ unmarked)
  intro pair member
  unfold handed ofEntries
  rw [sessionEntries_eq, List.map_map, List.map_append, Table.ofList_append]
  show (Table.putAll _ (e.sessionPairs.map _)).find? pair.1 = _
  rw [Function.comp_def, parts]
  exact Table.find?_putAll_of_mem _ distinct member

theorem mem_names_sessionEntries (e : Environ) {name : Text} (session : name ∈ sessionNames) :
    name ∈ e.sessionEntries.map entryName := by
  obtain ⟨pair, put, rfl⟩ : ∃ pair ∈ e.sessionPairs, pair.1 = name := List.mem_map.1 session
  rw [sessionEntries_eq, List.map_map]
  exact List.mem_map.2 ⟨pair, List.mem_append_right _ put,
    entryName_entry _ (unmarked_of_mem_session session)⟩

end Environ

namespace Session

structure Call where
  tool : Text
  /-- Whether all variables are stripped but those to keep. -/
  pure : Bool := false
  command : Option Text := none
  kept : List Text := []
  packages : Text := []
  deriving DecidableEq

namespace Call

/-- Reads the arguments after the tool, from switch to switch. What stands alone at the end is the
packages, even if it is spelled like a switch. -/
def read (call : Call) : List Text → Option Call
  | [] => none
  | [packages] => some { call with packages }
  | switch :: value :: rest =>
    if switch = "--pure" then read { call with pure := true } (value :: rest)
    else if switch = "--command" then read { call with command := some value } rest
    else if switch = "--keep" then read { call with kept := call.kept ++ [value] } rest
    else none

def ofArguments? : List Text → Option Call
  | [] => none
  | tool :: rest => read { tool } rest

theorem read_pure (call : Call) {rest : List Text} (more : rest ≠ []) :
    call.read (Text.ofString "--pure" :: rest) = read { call with pure := true } rest := by
  cases rest with
  | nil => exact absurd rfl more
  | cons value rest => rw [read, if_pos rfl]

theorem read_command (call : Call) (command : Text) (rest : List Text) :
    call.read (Text.ofString "--command" :: command :: rest) =
      read { call with command := some command } rest := by
  rw [read, if_neg (by decide), if_pos rfl]

theorem read_keep (call : Call) (name : Text) (rest : List Text) :
    call.read (Text.ofString "--keep" :: name :: rest) =
      read { call with kept := call.kept ++ [name] } rest := by
  rw [read, if_neg (by decide), if_neg (by decide), if_pos rfl]

theorem read_names (call : Call) (names : List Text) (packages : Text) :
    call.read ((names.flatMap fun name => [Text.ofString "--keep", name]) ++ [packages]) =
      some { call with kept := call.kept ++ names, packages } := by
  induction names generalizing call with
  | nil =>
    rw [List.append_nil]
    rfl
  | cons name names ih =>
    have step := ih { call with kept := call.kept ++ [name] }
    rw [List.append_assoc] at step
    exact (read_keep call name _).trans step

end Call

def keptNames (entries : List Text) : List Text :=
  (entries.map Environ.entryName).filter Environ.isKept

theorem ofArguments?_argv (packages : Text) (entries : List Text) (command : Option Text)
    (config : Config) :
    Call.ofArguments? (argv packages entries command config) =
      some { tool := config.tool, pure := true, command, kept := keptNames entries, packages } := by
  have names (call : Call) := call.read_names (keptNames entries) packages
  have more (names : List Text) : names ++ [packages] ≠ [] := by simp
  cases command with
  | none => exact (Call.read_pure _ (more _)).trans (names _)
  | some c => exact (Call.read_command _ c _).trans ((Call.read_pure _ (more _)).trans (names _))

theorem argv_eq_iff (packages other : Text) (entries entries' : List Text)
    (command command' : Option Text) (config config' : Config) :
    argv packages entries command config = argv other entries' command' config' ↔
      config.tool = config'.tool ∧ command = command' ∧ keptNames entries = keptNames entries' ∧
        packages = other := by
  constructor
  · intro same
    have calls := congrArg Call.ofArguments? same
    rw [ofArguments?_argv, ofArguments?_argv, Option.some.injEq, Call.mk.injEq] at calls
    obtain ⟨tool, -, command, kept, packages⟩ := calls
    exact ⟨tool, command, kept, packages⟩
  · rintro ⟨tool, rfl, kept, rfl⟩
    unfold argv Environ.keepArguments
    unfold keptNames at kept
    rw [tool, kept]

theorem mem_keptNames (entries : List Text) (name : Text) :
    name ∈ keptNames entries ↔
      name ∈ (Environ.ofEntries entries).names ∧ Environ.isKept name = true := by
  unfold keptNames Environ.ofEntries Table.ofList
  rw [List.mem_filter, Table.mem_names_putAll, List.map_map]
  simp [Table.names, Table.empty, Function.comp_def]

/-- The variables that the sandbox relies on are kept, and its search path is the one handed on. -/
structure Furnished (environ : Environ) (invocation : Invocation) : Prop where
  keeps : ∃ call, Call.ofArguments? invocation.argv = some call ∧ Environ.parentPath ∈ call.kept ∧
    Environ.sourcedMarker ∈ call.kept
  path : invocation.environ.find? Environ.parentPath = some environ.handedPath

theorem furnished (packages : Text) (environ : Environ) (command : Option Text) (config : Config) :
    Furnished environ ⟨argv packages environ.sessionEntries command config,
      Environ.ofEntries environ.sessionEntries⟩ := by
  have kept {name : Text} (session : name ∈ Environ.sessionNames)
      (listed : Environ.isKept name = true) : name ∈ keptNames environ.sessionEntries :=
    List.mem_filter.2 ⟨environ.mem_names_sessionEntries session, listed⟩
  constructor
  · exact ⟨_, ofArguments?_argv _ _ _ _, kept (by decide) (by decide), kept (by decide) (by decide)⟩
  · exact environ.find?_handed_sessionPairs (Environ.parentPath, environ.handedPath)
      List.mem_cons_self

/-- The arguments of the tool and its environment agree on the names to keep, and the arguments tell
all that was put into them. In a session both have the variables that the sandbox relies on, and the
tool is started with them once, unless the system has no form for one of the arguments, or for the
path of the user's startup file before it comes to them. -/
theorem arguments_agree (packages : Text) (entries : List Text) (command : Option Text)
    (config : Config) :
    (∃ call, Call.ofArguments? (argv packages entries command config) = some call ∧
      call.kept = (entries.map Environ.entryName).filter Environ.isKept ∧
      ∀ name, name ∈ call.kept ↔
        name ∈ (Environ.ofEntries entries).names ∧ Environ.isKept name = true) ∧
    (∀ other entries' command' config',
      argv packages entries command config = argv other entries' command' config' ↔
        config.tool = config'.tool ∧ command = command' ∧
          keptNames entries = keptNames entries' ∧ packages = other) ∧
    ∀ (h : Host) (profile : Option ShellProfile) (environ : Environ),
      let ran := run h packages profile config environ
      (∀ invocation ∈ ran.invocations, Furnished environ invocation) ∧
      ((∀ p, profile = some p → p.planHook ≠ none) →
        (∃ before invocation, before.filterMap Event.invocation? = [] ∧
          Furnished environ invocation ∧
          ran = ⟨before ++ (start h config invocation).events, (start h config invocation).value⟩ ∧
          ((∀ name ∈ invocation.argv, h.nameFault? name = none) →
            ran.invocations = [invocation])) ∨
        ∃ p fault, profile = some p ∧ h.nameFault? p.startupPath = some fault ∧
          ran.invocations = [] ∧ ran.value = .error (.unprepared (.unnameable fault))) := by
  refine ⟨⟨_, ofArguments?_argv packages entries command config, rfl, mem_keptNames entries⟩,
    fun other entries' command' config' => argv_eq_iff _ _ _ _ _ _ _ _, ?_⟩
  intro h profile environ ran
  constructor
  · intro invocation started
    rcases run_invocations h packages profile config environ with unstarted | ⟨launched, single⟩
    · cases unstarted ▸ started
    · obtain rfl := List.mem_singleton.1 (single ▸ started)
      exact furnished _ _ _ _
  · intro hooked
    have going := run_going h packages profile config environ hooked
    change Going h packages profile config environ ran at going
    generalize ran = r at going
    cases going with
    | unnamed p found needed fault nameless quiet =>
      exact .inr ⟨p, fault, (Option.filter_eq_some_iff.1 found).1, nameless, quiet.invocations, rfl⟩
    | @launched before command way ending starting =>
      refine .inl ⟨before, _, way.invocations, furnished packages environ command config, ?_, ?_⟩
      · rw [starting]
      · intro named
        rw [starting]
        rcases start_cases h config _ with ⟨-, started⟩ | ⟨name, member, fault, nameless, -⟩
        · rw [started]
          unfold Traced.invocations
          rw [List.filterMap_append, way.invocations]
          rfl
        · cases (named name member).symm.trans nameless

/-- Packages and a command that are spelled like switches, entries with two equals signs and with
none, and variables that the session puts in, one of them under a name that is cut. -/
theorem arguments_agree_switches :
    let entries : List Text := ["TERM=a=b", "HOME", "X=1", "=PWD", "TERM=c"]
    let names : List Text := ["TERM", "HOME", "TERM"]
    let login : Environ := Table.ofList [("PARENT_PATH", "/old"), ("PARENT_PATH=", "x"),
      ("SHELL", "/bin/ksh"), ("PATH", "/usr/bin:.:/bin/")]
    let h : Host := { environ := login, nesting := 991 }
    let profile := ShellProfile.detect? login []
    (∃ call, Call.ofArguments? (argv "--keep" entries (some "--pure") {}) = some call ∧
      call.kept = names) ∧
      argv "--keep" entries (some "--pure") {} ≠ argv "--keep" ["TERM"] none {} ∧
      (∀ p, profile = some p → p.planHook ≠ none) ∧
      ∃ invocation, (run h "--keep" profile {} login).invocations = [invocation] ∧
        invocation.environ.find? Environ.parentPath = some (Text.ofString "/usr/bin:/bin") := by
  intro entries names login h profile
  obtain ⟨⟨call, read, kept, -⟩, told, session⟩ :=
    arguments_agree "--keep" entries (some "--pure") {}
  have hooked : ∀ p, profile = some p → p.planHook ≠ none := by
    intro p found
    have detected : profile = some { kind := .ksh, program := "/bin/ksh" } := by decide
    obtain rfl := Option.some.inj (found.symm.trans detected)
    decide
  have well : (run h "--keep" profile {} login).value = .ok () := by decide +kernel
  obtain ⟨before, invocation, -, furnished, ran, once⟩ | ⟨p, fault, -, -, -, ended⟩ :=
    (session h profile login).2 hooked
  rotate_left
  · cases well.symm.trans ended
  have started : (run h "--keep" profile {} login).invocations = [invocation] := by
    rcases start_cases h {} invocation with ⟨named, -⟩ | ⟨name, -, fault, -, ended⟩
    · exact once named
    · rw [ran, ended] at well
      cases well
  refine ⟨⟨call, read, kept.trans (by decide)⟩, fun same => ?_, hooked, invocation, started,
    furnished.path.trans (by decide)⟩
  cases ((told _ _ _ _).1 same).2.1

end Session

end SandboxShell

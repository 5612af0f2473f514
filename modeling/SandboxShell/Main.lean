import SandboxShell.CommandLine.Run

/-!
The command line. It looks at the machine, lets the library plan the run, and carries out the events
of the plan. The sandbox tool is not started from here: its command line is printed for the caller to
run, who then tells in a line how the tool ended. Until then the run is planned as if it ended well,
which makes no difference to what comes before. That a file can be written into a fresh directory is
taken for granted.
-/

open SandboxShell

namespace SandboxShell.CommandLine

def asString (t : Text) : String :=
  String.ofList (t.map fun
    | .char c => c
    | .lone _ => '\uFFFD')

def decoded (path : String) : IO Text := do
  return Utf8.decode (← IO.FS.readBinFile path).toList

def processEnviron : IO Environ := do
  let entries := (← decoded "/proc/self/environ").splitOn '\x00'
  return Environ.ofEntries (entries.filter (· ≠ []))

def userOf (status : Text) : Option Text := do
  let line ← (status.splitOn '\n').find? (Text.startsWith · "Uid:")
  (line.words.drop 1).head?

/-- The accounts in the table of the system. Of two lines for one account the first counts. -/
def accountsOf (user : Option Text) (table : Text) : Accounts :=
  let accounts := (table.splitOn '\n').filterMap fun line =>
    match line.splitOn ':' with
    | name :: _ :: number :: _ :: _ :: home :: _ => some (name, number, home)
    | _ => none
  { own := (accounts.find? fun account => user = some account.2.1).map (·.2.2)
    named := Table.ofList (accounts.reverse.map fun account => (account.1, account.2.2)) }

def systemAccounts : IO Accounts := do
  return accountsOf (userOf (← decoded "/proc/self/status")) (← decoded "/etc/passwd")

def faultOf : IO.Error → SystemFault
  | .otherError code reason | .resourceBusy code reason | .resourceVanished code reason
  | .unsupportedOperation code reason | .hardwareFault code reason
  | .unsatisfiedConstraints code reason | .illegalOperation code reason
  | .protocolError code reason | .timeExpired code reason | .alreadyExists _ code reason
  | .interrupted _ code reason | .noFileOrDirectory _ code reason | .invalidArgument _ code reason
  | .permissionDenied _ code reason | .resourceExhausted _ code reason
  | .inappropriateType _ code reason | .noSuchThing _ code reason => ⟨code.toNat, reason⟩
  | .unexpectedEof => ⟨0, "unexpected end of file"⟩
  | .userError reason => ⟨0, reason⟩

/-- What there is at a path, if anything. A file that cannot be opened is told from one that cannot
even be looked for by asking for its place. -/
def contentAt (path : Path) : IO (Option FileContent) := do
  if path.nameFault?.isSome then return none
  try
    let bytes ← IO.FS.readBinFile (asString path)
    return some (.bytes bytes.toList)
  catch unread =>
    if (faultOf unread).isAbsence then return none
    try
      let _ ← IO.FS.realPath (asString path)
      return some (.refused (faultOf unread))
    catch unseen => return some (.hidden (faultOf unseen))

def pathsRead (h : Host) : List Path :=
  let config := match Config.location h with
    | .ok route => [route.text]
    | .error _ => []
  let startup := match ShellProfile.detect? h.environ [] with
    | some profile => [profile.startupPath]
    | none => []
  (config ++ startup).filter (· ≠ [])

/-- The number of the first directory, of those with up to four digits, whose place is free, and why
it cannot be made, if so. -/
def freeDirectory : IO (Nat × Option SystemFault) := do
  for n in List.range 9999 do
    let path := asString (FreshDirectory.numbered n).path
    try
      IO.FS.createDir path
      IO.FS.removeDir path
      return (n, none)
    catch
      | .alreadyExists .. => pure ()
      | unmade => return (n, some (faultOf unmade))
  return (9999, none)

/-- The machine, with the files that matter for a run. So many lists and objects in one another are
read when the program is called from the top of a fresh stack. -/
def thisHost : IO Host := do
  let (directories, directoryFault) ← freeDirectory
  let host : Host :=
    { environ := ← processEnviron, accounts := ← systemAccounts, directories, directoryFault,
      nesting := 991 }
  let files ← (pathsRead host).filterMapM fun path => do
    return (← contentAt path).map fun content => (path, content)
  return { host with files := Table.ofList files }

def invocationText (run : Invocation) : Text :=
  let assignments := run.environ.entries.map fun pair => Environ.entry pair.1 pair.2
  let quoted := (assignments ++ run.argv).map StartupFile.singleQuoted
  Text.join " " ("env" :: "-i" :: quoted) ++ "\n"

/-- How the tool ended, by a line with its status, or with the code and the reason of a refusal. -/
def endingOf (line : Text) : ToolOutcome :=
  match line.words with
  | [] => .exited 0
  | [status] => .exited ((asString status).toInt?.getD 1)
  | code :: reason => .refused ⟨(asString code).toInt?.getD 0, Text.join " " reason⟩

def carryOut (debug : Bool) : Event → IO Unit
  | .noted component message =>
    if debug then IO.eprint (asString (CommandLine.logLine component message)) else pure ()
  | .madeDirectory path => IO.FS.createDir (asString path)
  | .wrote path content => IO.FS.writeBinFile (asString path) ⟨content.toArray⟩
  | .started run => IO.print (asString (invocationText run))
  | .printed t => IO.print (asString t)
  | .complained t => IO.eprint (asString t)

end SandboxShell.CommandLine

open SandboxShell.CommandLine in
def main (arguments : List String) : IO UInt32 := do
  let host ← thisHost
  let plan (tool : ToolOutcome) := run { host with tool } (arguments.map Text.ofString)
  let expected := plan (.exited 0)
  (Event.splitAtStart expected.events).1.forM (carryOut expected.debug)
  let report ← match expected.events.findSome? Event.invocation? with
    | none => pure expected
    | some _ => do
      (← IO.getStdout).flush
      pure (plan (endingOf (Text.ofString (← (← IO.getStdin).getLine))))
  (Event.splitAtStart report.events).2.forM (carryOut report.debug)
  match report.outcome with
  | .ok status => return UInt32.ofNat status.toNat
  | .error escape =>
    IO.eprintln (asString escape.message)
    return 1

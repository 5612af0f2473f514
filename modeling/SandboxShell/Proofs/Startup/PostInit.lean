import SandboxShell.Proofs.Environ.SearchPath
import SandboxShell.Proofs.Shell.Script
import SandboxShell.Proofs.Startup.Carried

/-!
The section that every startup file has, as a shell reads and runs it. It appends the parent's search
path where there is one, so that no empty entry comes into the search path, and it puts the mark in
front of the prompt. The line that does this is one assignment, whatever the mark is spelled like: the
mark stands in it symbol for symbol, and the lines after it are read as they would be without it.
-/

namespace SandboxShell

namespace ScriptWord

def plain (t : Text) : ScriptWord := ⟨t, t.asWord⟩

end ScriptWord

namespace ShellWord

theorem text_append (values : ShellVariables) (one two : ShellWord) :
    text values (one ++ two) = text values one ++ text values two := List.flatMap_append

theorem text_asWord (values : ShellVariables) (t : Text) : text values t.asWord = t := by
  induction t with
  | nil => rfl
  | cons s t ih => exact congrArg (s :: ·) ih

theorem text_variable (values : ShellVariables) (name : Text) :
    text values [.variable name] = values name := List.append_nil _

end ShellWord

namespace StartupFile

open ScriptReader

def promptValue (mark : Text) : ShellWord :=
  (mark ++ Text.ofString " ").asWord ++ [.variable "PS1"]

def promptWord (mark : Text) : ScriptWord :=
  ⟨promptLine mark, (Text.ofString "PS1=").asWord ++ promptValue mark⟩

theorem text_promptValue (values : ShellVariables) (mark : Text) :
    (promptValue mark).text values = mark ++ Text.ofString " " ++ values "PS1" := by
  rw [promptValue, ShellWord.text_append, ShellWord.text_asWord, ShellWord.text_variable]

theorem assignment?_promptWord (mark : Text) :
    (promptWord mark).assignment? = some (Text.ofString "PS1", promptValue mark) := rfl

/-- The word as a reader of scripts holds it, before it is ended. -/
def atPrompt (done : List ScriptCommand) (mark : Text) : ScriptReader :=
  { word := { current := some (promptWord mark).parts.reverse }
    spelled := (promptLine mark).reverse
    done }

theorem read_promptEnd {r : ScriptReader} {parts : ShellWord} (code : r.inComment = false)
    (quoted : r.word.quoting = .single) (inside : r.word.current = some parts) :
    r.read "'\"$PS1\"" = some { r with
      word := { r.word with quoting := .bare, current := some (.variable "PS1" :: parts) }
      spelled := (Text.ofString "'\"$PS1\"").reverse ++ r.spelled } := by
  obtain ⟨⟨quoting, current, words⟩, spelled, inComment, commands, done⟩ := r
  obtain rfl : inComment = false := code
  obtain rfl : quoting = .single := quoted
  obtain rfl : current = some parts := inside
  rfl

/-- The prompt's line is read as one word, and ends outside quotes. -/
theorem read_promptLine (done : List ScriptCommand) (mark : Text) :
    (between done).read (promptLine mark) = some (atPrompt done mark) := by
  let inner := Text.replaceChar '\'' "'\\''" (mark ++ Text.ofString " ")
  let opening : ScriptReader :=
    { word := { quoting := .single, current := some (Text.ofString "PS1=").asWord.reverse }
      spelled := (Text.ofString "PS1='").reverse
      done }
  have line : promptLine mark = Text.ofString "PS1='" ++ inner ++ Text.ofString "'\"$PS1\"" := by
    simp [promptLine, singleQuoted, inner, Text.ofString]
  have opened : (between done).read "PS1='" = some opening := rfl
  rw [line, read_append, read_append, opened, Option.bind_some, read_inQuotes rfl rfl rfl,
    Option.bind_some, read_promptEnd (r := opening.addQuoted _ _) rfl rfl rfl]
  simp [atPrompt, addQuoted, WordReader.addText, promptWord, promptValue, line, inner, opening,
    Text.asWord]

theorem endCommand_atPrompt (done : List ScriptCommand) (mark : Text) :
    (atPrompt done mark).endCommand = between ([promptWord mark] :: done) := by
  simp [endCommand, endWord, atPrompt, between, promptWord]

theorem read_promptLine_newline (done : List ScriptCommand) (mark : Text) :
    (between done).read (promptLine mark ++ Text.ofString "\n") =
      some (between ([promptWord mark] :: done)) := by
  rw [read_append, read_promptLine, Option.bind_some]
  exact (read_newline rfl).trans (congrArg some (endCommand_atPrompt done mark))

def beforePrompt (f : StartupFile) : Text :=
  (if f.ownText = [] then [] else Section.text ⟨f.ownPath, f.ownText⟩ ++ Text.ofString "\n") ++
    (Text.ofString "# Begin boxsh Post-init Hook\n\n" ++ Text.join "\n" searchPathLines)

def afterPrompt (f : StartupFile) : Text :=
  Text.ofString "\n# End boxsh Post-init Hook\n" ++
    (if f.planHook = [] then []
      else Text.ofString "\n" ++ Section.text ⟨"Plan Init Hook", f.planHook⟩) ++
    (if f.userHook = [] then []
      else Text.ofString "\n" ++ Section.text ⟨"User Init Hook", f.userHook⟩)

def promptPart (mark : Text) : Text :=
  if mark = [] then [] else Text.ofString "\n" ++ promptLine mark

theorem text_postInit (mark : Text) :
    (postInit mark).text = Text.ofString "# Begin boxsh Post-init Hook\n\n" ++
      Text.join "\n" searchPathLines ++ promptPart mark ++ Text.ofString "\n" ++
      Text.ofString "\n# End boxsh Post-init Hook\n" := by
  have body : Text.join "\n" (postInitLines mark) =
      Text.join "\n" searchPathLines ++ promptPart mark := by
    unfold postInitLines promptPart
    split
    · rfl
    · rw [Text.join_append (by decide) (by simp), List.append_assoc]
      rfl
  unfold Section.text postInit
  dsimp only
  rw [body]
  simp [Text.ofString]

theorem text_around (f : StartupFile) :
    f.text = f.beforePrompt ++ promptPart f.promptMark ++ Text.ofString "\n" ++ f.afterPrompt := by
  rw [text_eq, text_postInit, beforePrompt, afterPrompt]
  simp only [List.append_assoc]

theorem postInit_infix (f : StartupFile) : (postInit f.promptMark).text <:+: f.text := by
  rw [text_eq, List.append_assoc _ _ (ite (f.userHook = []) _ _)]
  exact List.infix_append _ _ _

def searchPathCommands : List ScriptCommand :=
  [[.plain "if", .plain "[", .plain "-n", ⟨"\"$PARENT_PATH\"", [.variable "PARENT_PATH"]⟩,
      .plain "]"],
    [.plain "then"],
    [.plain "export", ⟨"PATH=\"$PATH:$PARENT_PATH\"", (Text.ofString "PATH=").asWord ++
      [.variable "PATH", .literal (.char ':'), .variable "PARENT_PATH"]⟩],
    [.plain "fi"]]

theorem read_searchPath : ∃ r,
    ({} : ScriptReader).read (Text.ofString "# Begin boxsh Post-init Hook\n\n" ++
      Text.join "\n" searchPathLines) = some r ∧
    r.word.quoting = .bare ∧ r.endCommand.done = searchPathCommands.reverse := by
  have read : (({} : ScriptReader).read (Text.ofString "# Begin boxsh Post-init Hook\n\n" ++
      Text.join "\n" searchPathLines)).map (fun r => (r.word.quoting, r.endCommand.done)) =
        some (.bare, searchPathCommands.reverse) := by decide +kernel
  obtain ⟨r, found, same⟩ := Option.map_eq_some_iff.1 read
  exact ⟨r, found, congrArg Prod.fst same, congrArg Prod.snd same⟩

def promptCommands (mark : Text) : List ScriptCommand := if mark = [] then [] else [[promptWord mark]]

theorem read_promptPart {r : ScriptReader} (bare : r.word.quoting = .bare) (mark : Text) :
    r.read (promptPart mark ++ Text.ofString "\n") =
      some (between ((promptCommands mark).reverse ++ r.endCommand.done)) := by
  have newline : r.read "\n" = some (between r.endCommand.done) := by
    rw [← endCommand_eq]
    exact read_newline bare
  unfold promptPart promptCommands
  split
  · exact newline
  · rw [List.append_assoc, read_append, newline, Option.bind_some, read_promptLine_newline]
    rfl

/-- A script with the prompt's line in it is read as the script without, and the line's commands in
their place. -/
theorem scriptCommands?_around {front : Text} {r : ScriptReader}
    (read : ({} : ScriptReader).read front = some r) (bare : r.word.quoting = .bare)
    (mark back : Text) :
    (front ++ promptPart mark ++ Text.ofString "\n" ++ back).scriptCommands? =
      back.scriptCommands?.map (r.endCommand.done.reverse ++ promptCommands mark ++ ·) := by
  rw [scriptCommands?_eq, List.append_assoc front, List.append_assoc front, read_append, read,
    Option.bind_some, read_append, read_promptPart bare, Option.bind_some, finish_between,
    List.reverse_append, List.reverse_reverse]

theorem scriptCommands?_postInit (mark : Text) :
    (postInit mark).text.scriptCommands? = some (searchPathCommands ++ promptCommands mark) := by
  obtain ⟨r, read, bare, commands⟩ := read_searchPath
  have ending : (Text.ofString "\n# End boxsh Post-init Hook\n").scriptCommands? = some [] := by
    decide
  rw [text_postInit, scriptCommands?_around read bare, ending, commands, List.reverse_reverse]
  exact congrArg some (List.append_nil _)

def appended (values : ShellVariables) : ShellVariables :=
  if values Environ.parentPath = [] then values
  else values.set "PATH" (values "PATH" ++ Text.ofString ":" ++ values Environ.parentPath)

def prompted (mark : Text) (values : ShellVariables) : ShellVariables :=
  if mark = [] then values else values.set "PS1" (mark ++ Text.ofString " " ++ values "PS1")

theorem run_searchPath (values : ShellVariables) :
    searchPathCommands.foldlM ScriptRun.step ⟨.outside, values⟩ = some ⟨.outside, appended values⟩ := by
  let parent := ShellWord.text values [.variable "PARENT_PATH"]
  let longer := values.set "PATH" (ShellWord.text values
    [.variable "PATH", .literal (.char ':'), .variable "PARENT_PATH"])
  have parent_eq : parent = values Environ.parentPath := ShellWord.text_variable values _
  have longer_eq : longer =
      values.set "PATH" (values "PATH" ++ Text.ofString ":" ++ values Environ.parentPath) := by
    simp [longer, ShellWord.text, Environ.parentPath, Text.ofString]
  have asked : ∀ rest : List ScriptCommand, List.foldlM ScriptRun.step ⟨.outside, values⟩
      (searchPathCommands.take 2 ++ rest) =
        rest.foldlM ScriptRun.step ⟨.branch (parent ≠ []), values⟩ := fun rest => rfl
  have taken : (searchPathCommands.drop 2).foldlM ScriptRun.step ⟨.branch true, values⟩ =
      some ⟨.outside, longer⟩ := rfl
  have skipped : (searchPathCommands.drop 2).foldlM ScriptRun.step ⟨.branch false, values⟩ =
      some ⟨.outside, values⟩ := rfl
  rw [← List.take_append_drop 2 searchPathCommands, asked]
  unfold appended
  by_cases none : parent = []
  · rw [decide_eq_false (not_not.2 none), skipped, if_pos (parent_eq ▸ none)]
  · rw [decide_eq_true none, taken, if_neg (parent_eq ▸ none), longer_eq]

theorem run_promptCommands (mark : Text) (values : ShellVariables) :
    (promptCommands mark).foldlM ScriptRun.step ⟨.outside, values⟩ =
      some ⟨.outside, prompted mark values⟩ := by
  unfold promptCommands prompted
  split
  · rfl
  · rw [← text_promptValue]
    rfl

/-- Running the section appends the parent's search path and marks the prompt. -/
theorem runScript?_postInit (mark : Text) (values : ShellVariables) :
    (postInit mark).text.runScript? values = some (prompted mark (appended values)) := by
  unfold Text.runScript?
  rw [scriptCommands?_postInit]
  change (List.foldlM ScriptRun.step _ (searchPathCommands ++ promptCommands mark)).bind _ = _
  rw [List.foldlM_append, run_searchPath]
  change (List.foldlM ScriptRun.step _ (promptCommands mark)).bind _ = _
  rw [run_promptCommands]
  rfl

/-- The prompt's mark is never expanded. Its line is one assignment of the mark, a blank and the
prompt's own value, it ends outside quotes, and what follows it, in any script and in the startup file,
is read as it would be if the line were not there. -/
theorem promptMark_literal (f : StartupFile) (marked : f.promptMark ≠ []) :
    (promptWord f.promptMark).assignment? = some (Text.ofString "PS1",
      (f.promptMark ++ Text.ofString " ").asWord ++ [.variable "PS1"]) ∧
    (∀ values : ShellVariables, (promptValue f.promptMark).text values =
      f.promptMark ++ Text.ofString " " ++ values "PS1") ∧
    (∀ done, ∃ r, (between done).read (promptLine f.promptMark) = some r ∧
      r.word.quoting = .bare ∧
      r.step (.char '\n') = some (between ([promptWord f.promptMark] :: done))) ∧
    (∀ done rest,
      (between done).read (promptLine f.promptMark ++ Text.ofString "\n" ++ rest) =
        (({} : ScriptReader).read rest).map (behind ([promptWord f.promptMark] :: done)) ∧
      (between done).read rest = (({} : ScriptReader).read rest).map (behind done)) ∧
    f.text = f.beforePrompt ++ Text.ofString "\n" ++ promptLine f.promptMark ++ Text.ofString "\n" ++
      f.afterPrompt ∧
    text { f with promptMark := [] } = f.beforePrompt ++ Text.ofString "\n" ++ f.afterPrompt ∧
    (∀ r, ({} : ScriptReader).read f.beforePrompt = some r → r.word.quoting = .bare →
      ∃ before,
        f.text.scriptCommands? =
          f.afterPrompt.scriptCommands?.map (before ++ [promptWord f.promptMark] :: ·) ∧
        (text { f with promptMark := [] }).scriptCommands? =
          f.afterPrompt.scriptCommands?.map (before ++ ·)) ∧
    ∀ values, ∃ after, (postInit f.promptMark).text.runScript? values = some after ∧
      after "PS1" = f.promptMark ++ Text.ofString " " ++ values "PS1" := by
  have part : promptPart f.promptMark = Text.ofString "\n" ++ promptLine f.promptMark := if_neg marked
  have commands : promptCommands f.promptMark = [[promptWord f.promptMark]] := if_neg marked
  have around := text_around f
  have without : text { f with promptMark := [] } =
      f.beforePrompt ++ promptPart [] ++ Text.ofString "\n" ++ f.afterPrompt :=
    text_around { f with promptMark := [] }
  refine ⟨assignment?_promptWord _, fun values => text_promptValue values _, fun done => ?_,
    fun done rest => ⟨?_, read_between done rest⟩, ?_, ?_, fun r read bare => ?_, fun values => ?_⟩
  · refine ⟨atPrompt done f.promptMark, read_promptLine done _, rfl, ?_⟩
    rw [step_newline rfl, endCommand_atPrompt]
  · rw [read_append, read_promptLine_newline, Option.bind_some, read_between]
  · rw [around, part]
    simp only [List.append_assoc]
  · rw [without, promptPart, if_pos rfl, List.append_nil]
  · refine ⟨r.endCommand.done.reverse, ?_, ?_⟩
    · rw [around, scriptCommands?_around read bare, commands]
      simp only [List.append_assoc, List.singleton_append]
    · rw [without, scriptCommands?_around read bare, promptCommands, if_pos rfl, List.append_nil]
  · refine ⟨_, runScript?_postInit _ values, ?_⟩
    rw [prompted, if_neg marked, appended]
    split <;> rfl

/-- A mark of quotes, substitutions and a newline, between a user's own startup file and two hooks. -/
theorem promptMark_literal_hostile :
    let f : StartupFile :=
      { ownText := "alias ll='ls -l' # it's mine", ownPath := "/h/.bashrc", userHook := "B=\"$A\""
        planHook := "A='x y'", promptMark := "'it''s \\' $(reboot) `x`\n\"" }
    let later : List ScriptCommand :=
      [[⟨"A='x y'", (Text.ofString "A=x y").asWord⟩],
        [⟨"B=\"$A\"", (Text.ofString "B=").asWord ++ [.variable "A"]⟩]]
    f.promptMark ≠ [] ∧
      (∃ r, ({} : ScriptReader).read f.beforePrompt = some r ∧ r.word.quoting = .bare) ∧
      (∃ before,
        f.text.scriptCommands? = some (before ++ [promptWord f.promptMark] :: later) ∧
        (text { f with promptMark := [] }).scriptCommands? = some (before ++ later)) ∧
      ∀ values : ShellVariables, (promptValue f.promptMark).text values =
        f.promptMark ++ Text.ofString " " ++ values "PS1" := by
  intro f later
  have marked : f.promptMark ≠ [] := by decide
  have bare : (({} : ScriptReader).read f.beforePrompt).map (·.word.quoting) = some .bare := by
    decide +kernel
  have rest : f.afterPrompt.scriptCommands? = some later := by decide +kernel
  obtain ⟨r, read, outside⟩ := Option.map_eq_some_iff.1 bare
  obtain ⟨-, value, -, -, -, -, file, -⟩ := promptMark_literal f marked
  obtain ⟨before, withMark, without⟩ := file r read outside
  rw [rest] at withMark without
  exact ⟨marked, ⟨r, read, outside⟩, ⟨before, withMark, without⟩, value⟩

/-- What a cleaned search path brings: the normal forms of the entries to keep, in their order, each
one direct; and the startup file appends them, and nothing else, to any search path. -/
theorem cleaned_appended (searchPath : Text) (profiles : List Path) :
    let kept := Environ.cleanSearchPath searchPath profiles
    Environ.searchEntries kept = ((Text.splitOn ':' searchPath).filter fun raw =>
        Path.isAbsolute raw = true ∧ ∀ d ∈ profiles, ¬d <+: Path.normalize raw).map Path.normalize ∧
    (∀ x ∈ Environ.searchEntries kept, Path.isAbsolute x = true ∧ Path.normalize x = x ∧
      ∃ names, x.Direct (Path.root x) names) ∧
    (∀ outer, kept ≠ [] → Text.splitOn ':' (outer ++ Text.ofString ":" ++ kept) =
      Text.splitOn ':' outer ++ Environ.searchEntries kept) ∧
    ∀ (f : StartupFile) (values : ShellVariables), values Environ.parentPath = kept →
      (postInit f.promptMark).text <:+: f.text ∧
      ∃ after, (postInit f.promptMark).text.runScript? values = some after ∧
        after "PATH" = (if kept = [] then values "PATH"
          else values "PATH" ++ Text.ofString ":" ++ kept) ∧
        Text.splitOn ':' (after "PATH") =
          Text.splitOn ':' (values "PATH") ++ Environ.searchEntries kept := by
  intro kept
  have continued (outer : Text) (filled : kept ≠ []) :
      Text.splitOn ':' (outer ++ Text.ofString ":" ++ kept) =
        Text.splitOn ':' outer ++ Environ.searchEntries kept := by
    rw [Environ.searchEntries, if_neg filled]
    exact Text.splitOn_append ':' outer kept
  refine ⟨?_, ?_, continued, ?_⟩
  · rw [Environ.searchEntries_cleanSearchPath, Environ.cleanEntries_eq]
    congr 1
    apply List.filter_congr
    intro raw _
    rw [Bool.eq_iff_iff]
    simp [← Bool.not_eq_true, Environ.isProfilePath_iff]
  · rw [Environ.searchEntries_cleanSearchPath]
    intro x member
    obtain ⟨names, direct⟩ := Environ.direct_of_mem_clean member
    exact ⟨direct.isAbsolute, Environ.normal_of_mem_clean member, names, direct⟩
  · intro f values parent
    have path : prompted f.promptMark (appended values) "PATH" = appended values "PATH" := by
      unfold prompted
      split <;> rfl
    have whole : appended values "PATH" =
        if kept = [] then values "PATH" else values "PATH" ++ Text.ofString ":" ++ kept := by
      unfold appended
      rw [parent]
      split <;> rfl
    refine ⟨f.postInit_infix, _, runScript?_postInit _ values, path.trans whole, ?_⟩
    rw [path, whole]
    by_cases empty : kept = []
    · rw [if_pos empty, Environ.searchEntries, if_pos empty, List.append_nil]
    · rw [if_neg empty, continued _ empty]

/-- Two entries that stay, in normal form, behind the search path of the sandbox. -/
theorem cleaned_appended_sandbox :
    let kept := Environ.cleanSearchPath "/usr//bin:.::/nix/p/bin:bin:/opt/../bin" ["/nix/p", "/var"]
    let f : StartupFile :=
      { ownText := [], ownPath := "/h/.bashrc", userHook := [], planHook := [], promptMark := "(boxsh)" }
    let values : ShellVariables := fun name => if name = Environ.parentPath then kept else "/nix/s/bin"
    kept = "/usr/bin:/bin" ∧ values Environ.parentPath = kept ∧
      ∃ after, (postInit f.promptMark).text.runScript? values = some after ∧
        after "PATH" = "/nix/s/bin:/usr/bin:/bin" := by
  intro kept f values
  have cleaned : kept = "/usr/bin:/bin" := by decide
  obtain ⟨-, -, -, run⟩ := cleaned_appended "/usr//bin:.::/nix/p/bin:bin:/opt/../bin" ["/nix/p", "/var"]
  obtain ⟨-, after, ran, path, -⟩ := run f values rfl
  refine ⟨cleaned, rfl, after, ran, path.trans ?_⟩
  change (if kept = [] then _ else values "PATH" ++ Text.ofString ":" ++ kept) = _
  rw [cleaned]
  decide

end StartupFile

end SandboxShell

import SandboxShell.Proofs.Shell.Reading
import SandboxShell.Shell.Script
import SandboxShell.Shell.StartupFile

/-!
How a shell reads a script piece by piece. What has been read does not change how the rest is read, so
that a line that leaves the reader between commands only adds its own. Text between single quotes, its
own quotes written outside, is read as itself, whatever symbols it has.
-/

namespace SandboxShell

namespace ScriptReader

variable {r next : ScriptReader} {s : Symbol} {t : Text}

def read (r : ScriptReader) (t : Text) : Option ScriptReader := t.foldlM step r

theorem read_nil (r : ScriptReader) : r.read [] = some r := rfl

theorem read_cons (r : ScriptReader) (s : Symbol) (t : Text) :
    r.read (s :: t) = (r.step s).bind (·.read t) := rfl

theorem read_append (r : ScriptReader) (t u : Text) :
    r.read (t ++ u) = (r.read t).bind (·.read u) := List.foldlM_append

theorem scriptCommands?_eq (t : Text) :
    t.scriptCommands? = (({} : ScriptReader).read t).bind finish := rfl

/-- The reader, had it read other commands before. -/
def behind (before : List ScriptCommand) (r : ScriptReader) : ScriptReader :=
  { r with done := r.done ++ before }

theorem endWord_behind (before : List ScriptCommand) (r : ScriptReader) :
    (r.behind before).endWord = r.endWord.behind before := by
  unfold endWord behind
  cases r.word.current <;> rfl

theorem words_behind (before : List ScriptCommand) (r : ScriptReader) :
    (r.behind before).words = r.words := rfl

theorem endCommand_behind (before : List ScriptCommand) (r : ScriptReader) :
    (r.behind before).endCommand = r.endCommand.behind before := by
  unfold endCommand
  rw [endWord_behind]
  dsimp only
  rw [words_behind]
  split <;> rfl

theorem spell_behind (before : List ScriptCommand) (r : ScriptReader) (s : Symbol) :
    (r.behind before).spell s = (r.spell s).map (behind before) := by
  unfold spell
  rw [Option.map_map]
  rfl

theorem stepBare_behind (before : List ScriptCommand) (r : ScriptReader) (s : Symbol) :
    (r.behind before).stepBare s = (r.stepBare s).map (behind before) := by
  unfold stepBare
  rw [endWord_behind, endCommand_behind, spell_behind]
  simp only [apply_ite (Option.map (behind before)), Option.map_some, Option.map_none]
  rfl

theorem step_behind (before : List ScriptCommand) (r : ScriptReader) (s : Symbol) :
    (r.behind before).step s = (r.step s).map (behind before) := by
  unfold step
  rw [endCommand_behind, spell_behind, stepBare_behind]
  simp only [apply_ite (Option.map (behind before)), Option.map_some,
    apply_ite (behind before)]
  rfl

theorem read_behind (before : List ScriptCommand) (r : ScriptReader) (t : Text) :
    (r.behind before).read t = (r.read t).map (behind before) := by
  induction t generalizing r with
  | nil => rfl
  | cons s t ih =>
    rw [read_cons, read_cons, step_behind]
    cases r.step s with
    | none => rfl
    | some next => exact ih next

theorem finish_behind (before : List ScriptCommand) (r : ScriptReader) :
    (r.behind before).finish = r.finish.map (before.reverse ++ ·) := by
  unfold finish
  rw [endCommand_behind]
  by_cases bare : r.word.quoting = .bare
  · rw [if_pos bare, if_pos (show (r.behind before).word.quoting = .bare from bare), Option.map_some]
    exact congrArg some List.reverse_append
  · rw [if_neg bare, if_neg (show (r.behind before).word.quoting ≠ .bare from bare)]
    rfl

def between (done : List ScriptCommand) : ScriptReader := { done }

theorem read_between (done : List ScriptCommand) (t : Text) :
    (between done).read t = (({} : ScriptReader).read t).map (behind done) := read_behind done {} t

theorem finish_between (done : List ScriptCommand) (t : Text) :
    ((between done).read t).bind finish = t.scriptCommands?.map (done.reverse ++ ·) := by
  rw [read_between, scriptCommands?_eq]
  cases ({} : ScriptReader).read t with
  | none => rfl
  | some r => exact finish_behind done r

theorem endWord_eq (r : ScriptReader) :
    r.endWord = { inComment := r.inComment, words := r.endWord.words, done := r.done } := by
  unfold endWord
  cases r.word.current <;> rfl

theorem endCommand_eq (r : ScriptReader) : r.endCommand = between r.endCommand.done := by
  unfold endCommand
  rw [endWord_eq]
  dsimp only
  split
  · rename_i none
    rw [none]
    rfl
  · rfl

/-- A newline outside quotes ends the command, in a comment as well. -/
theorem step_newline (bare : r.word.quoting = .bare) : r.step (.char '\n') = some r.endCommand := by
  unfold step
  by_cases comment : r.inComment = true
  · rw [if_pos comment, if_pos rfl]
  · rw [if_neg comment, if_pos bare]
    rfl

theorem read_newline (bare : r.word.quoting = .bare) : r.read "\n" = some r.endCommand := by
  change (r.step (.char '\n')).bind _ = _
  rw [step_newline bare]
  rfl

theorem step_quoted (code : r.inComment = false) (quoted : r.word.quoting ≠ .bare) (s : Symbol) :
    r.step s = r.spell s := by
  unfold step
  rw [code, if_neg Bool.false_ne_true, if_neg quoted]

/-- The reader in single quotes with a whole text added to its word, which is spelled another way. -/
def addQuoted (r : ScriptReader) (t spelling : Text) : ScriptReader :=
  { r with word := r.word.addText t, spelled := spelling.reverse ++ r.spelled }

theorem read_quote (code : r.inComment = false) (quoted : r.word.quoting = .single) :
    r.read "'\\''" = some (r.addQuoted "'" "'\\''") := by
  obtain ⟨⟨quoting, current, done⟩, spelled, inComment, words, commands⟩ := r
  obtain rfl : inComment = false := code
  obtain rfl : quoting = .single := quoted
  cases current <;> rfl

theorem step_single (code : r.inComment = false) (quoted : r.word.quoting = .single)
    (other : s ≠ .char '\'') : r.step s = some (r.addQuoted [s] [s]) := by
  rw [step_quoted code (by rw [quoted]; exact Quoting.noConfusion)]
  have literal : r.word.step s = some (r.word.add (.literal s)) := by
    unfold WordReader.step
    rw [quoted]
    dsimp only
    rw [if_neg other]
  unfold spell
  rw [literal, quoted]
  simp [addQuoted, WordReader.addText, WordReader.add, Text.asWord]

theorem addQuoted_addQuoted (r : ScriptReader) (t u spelling more : Text) :
    (r.addQuoted t spelling).addQuoted u more = r.addQuoted (t ++ u) (spelling ++ more) := by
  simp [addQuoted, WordReader.addText, Text.asWord]

theorem read_inQuotes (code : r.inComment = false) (quoted : r.word.quoting = .single)
    {parts : ShellWord} (inside : r.word.current = some parts) (t : Text) :
    r.read (Text.replaceChar '\'' "'\\''" t) =
      some (r.addQuoted t (Text.replaceChar '\'' "'\\''" t)) := by
  induction t generalizing r parts with
  | nil =>
    have same : r.addQuoted [] [] = r := by
      unfold addQuoted
      rw [WordReader.addText_nil inside]
      rfl
    exact congrArg some same.symm
  | cons s t ih =>
    have spelling : Text.replaceChar '\'' "'\\''" (s :: t) =
        (if s = .char '\'' then Text.ofString "'\\''" else [s]) ++
          Text.replaceChar '\'' "'\\''" t := rfl
    have first : r.read (if s = .char '\'' then Text.ofString "'\\''" else [s]) =
        some (r.addQuoted [s] (if s = .char '\'' then Text.ofString "'\\''" else [s])) := by
      split
      · rename_i quote
        subst quote
        exact read_quote code quoted
      · rename_i other
        rw [read_cons, step_single code quoted other]
        rfl
    rw [spelling, read_append, first, Option.bind_some,
      ih (r := r.addQuoted [s] _) code quoted rfl, addQuoted_addQuoted]
    rfl

end ScriptReader

end SandboxShell

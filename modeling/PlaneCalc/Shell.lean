import PlaneCalc.Config
import PlaneCalc.Session
import PlaneCalc.Shell.Display
import PlaneCalc.Shell.Grid

/-!
# The shell

Two ways to run lines in a fresh session. A batch runs them in order, shows each result and stops at
the first line that fails. A dialogue asks for each line with a prompt, goes on after a failure, and
understands two words of its own beside the lines of the language: one shows the variables, the other
forgets them. How texts appear on the screen is a parameter of both; `Rendering.terminal` is what a
terminal makes of them.

Reference: `vecalc.cli`.
-/

namespace PlaneCalc

/-- How texts appear on the screen. -/
structure Rendering where
  /-- A text on lines of its own. -/
  printed : String → String
  /-- A text in front of what is typed. -/
  shown : String → String
  /-- Rows under a header. -/
  table : List String → List (List String) → String

/-- Texts as a terminal shows them. -/
def Rendering.terminal : Rendering where
  printed := Display.printed
  shown := Display.shown
  table header rows := String.join ((Grid.lines header rows).map (· ++ "\n"))

namespace Shell

/-- What a run leaves behind: the text on the screen, the log, and the exit code. -/
structure Transcript where
  output : String
  log : List LogRecord
  exitCode : Nat
deriving DecidableEq

variable (r : Rendering)

/-- What the screen shows for a result. -/
def resultBlock (v : Operand) : String := r.printed v.text

/-- What the screen shows for a failure. -/
def faultBlock (f : Fault) : String :=
  r.printed f.diagnostic.category.name ++ r.printed f.diagnostic.report

/-- What the screen shows for a line that was run. -/
def lineBlock : Except Fault Operand → String
  | .ok v => resultBlock r v
  | .error f => faultBlock r f

/-- What the screen shows for the variables. -/
def variablesBlock (b : Bindings) : String :=
  if b.entries.isEmpty then r.printed "No variables defined."
  else r.table ["Name", "Kind", "Value"] (b.sortedEntries.map fun p => [p.1, p.2.kind, p.2.text])

/-! ## Batches -/

/-- Lines run in order up to the first that fails. -/
def batch (lang : Language) : Bindings → List String → Transcript
  | _, [] => ⟨"", [], 0⟩
  | b, line :: rest =>
    let done := execute lang b line
    match done.result with
    | .error f => ⟨faultBlock r f, done.log, 1⟩
    | .ok v =>
      let more := batch lang done.bindings rest
      ⟨resultBlock r v ++ more.output, done.log ++ more.log, more.exitCode⟩

/-! ## Dialogues -/

/-- What the shell does with a line of a dialogue: end it, or answer and go on. -/
inductive Turn where
  | quit
  | reply (block : String) (log : List LogRecord) (bindings : Bindings)

/-- The answer to a line. -/
def turn (config : Config) (b : Bindings) (line : String) : Turn :=
  let word := Text.trim line
  if word.isEmpty then
    if config.quitOnEmptyLine then .quit else .reply "" [] b
  else if word = ":vars" then .reply (variablesBlock r b) [] b
  else if word = ":clear" then .reply (r.printed "Variables cleared.") [.cleared] b.clear
  else
    let done := execute config.language b line
    match done.result with
    | .ok v => .reply (resultBlock r v) done.log done.bindings
    | .error f => .reply (faultBlock r f) (done.log ++ [.failed line]) done.bindings

/-- The prompt as the screen shows it. -/
def promptText (config : Config) : String := r.shown config.prompt

/-- A part of a dialogue: what is shown and logged, and the bindings with which the dialogue goes on
unless it has ended. -/
structure Conversation where
  output : String
  log : List LogRecord
  next : Option Bindings

/-- Lines answered one after the other, up to the line that ends the dialogue. After each answer the
prompt asks for the next line. -/
def converse (config : Config) : Bindings → List String → Conversation
  | b, [] => ⟨"", [], some b⟩
  | b, line :: rest =>
    match turn r config b line with
    | .quit => ⟨"", [], none⟩
    | .reply block log b' =>
      let more := converse config b' rest
      ⟨block ++ promptText r config ++ more.output, log ++ more.log, more.next⟩

/-- It does not matter in which portions the lines arrive. -/
theorem converse_append (config : Config) (b : Bindings) (lines more : List String) :
    converse r config b (lines ++ more) =
      match (converse r config b lines).next with
      | none => converse r config b lines
      | some b' =>
        ⟨(converse r config b lines).output ++ (converse r config b' more).output,
          (converse r config b lines).log ++ (converse r config b' more).log,
          (converse r config b' more).next⟩ := by
  induction lines generalizing b with
  | nil => simp [converse]
  | cons line rest ih =>
    rw [List.cons_append, converse, converse]
    cases turn r config b line with
    | quit => rfl
    | reply block log b' =>
      cases hnext : (converse r config b' rest).next with
      | none => simp only [ih b', hnext]
      | some b'' => simp only [ih b', hnext, String.append_assoc, List.append_assoc]

/-- What greets the user of a dialogue. -/
def bannerText (config : Config) : String :=
  if config.banner then r.printed "Enter an expression to evaluate, or an empty line to quit." else ""

/-- What a dialogue shows before the first line: the banner and the first prompt. -/
def opening (config : Config) : String := bannerText r config ++ promptText r config

/-- A dialogue in a fresh session. -/
def interact (config : Config) (lines : List String) : Transcript :=
  let spoken := converse r config .empty lines
  ⟨opening r config ++ spoken.output, spoken.log, 0⟩

end Shell

end PlaneCalc

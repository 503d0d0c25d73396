import PlaneCalc.Proofs.Session.Erasure
import PlaneCalc.Proofs.Shell.Input

/-!
# Batch and dialogue agree

A batch stops at the first line that fails, a dialogue goes on, and only a dialogue has words of its
own. On lines that are none of these words, both do the same with a line: they run it and show what
came of it. What a dialogue writes between two prompts is therefore the block of a line, and a batch
writes the same blocks, up to the first failure. A line that fails leaves nothing behind, so the
blocks of the other lines are the same without it.
-/

namespace PlaneCalc.Shell

open CommandLine (Feeds IsSingle)

variable (r : Rendering)

/-! ## Lines for the language -/

/-- A line that the shell hands on to the language: a single line that is not blank and is no word of
the shell, also with blanks around it. -/
structure Ordinary (line : String) : Prop where
  newline : '\n' ∉ line.toList
  carriageReturn : '\r' ∉ line.toList
  visible : ∃ c ∈ line.toList, Text.isBlank c = false
  notVars : Text.trim line ≠ ":vars"
  notClear : Text.trim line ≠ ":clear"

theorem Ordinary.isSingle {line : String} (h : Ordinary line) : IsSingle line := by
  obtain ⟨c, hc, _⟩ := h.visible
  exact ⟨List.ne_nil_of_mem hc, h.newline, h.carriageReturn⟩

theorem Ordinary.trim_ne_empty {line : String} (h : Ordinary line) :
    ¬ (Text.trim line).isEmpty = true := by
  obtain ⟨c, hc, hvisible⟩ := h.visible
  intro hempty
  have hmem := Text.mem_trim hc hvisible
  rw [String.isEmpty_iff.mp hempty] at hmem
  nomatch hmem

/-! ## Results and blocks -/

/-- The results of lines that are run one after the other, whether they fail or not. -/
def results (lang : Language) : Bindings → List String → List (Except Fault Operand)
  | _, [] => []
  | b, line :: rest =>
    (execute lang b line).result :: results lang (execute lang b line).bindings rest

/-- What a dialogue writes between its prompts, line by line. -/
def replies (config : Config) : Bindings → List String → List String
  | _, [] => []
  | b, line :: rest =>
    match turn r config b line with
    | .quit => []
    | .reply block _ b' => block :: replies config b' rest

/-- Whether a line failed. -/
def hasFailed : Except Fault Operand → Bool
  | .ok _ => false
  | .error _ => true

/-- A line for the language is run, and what came of it is shown. -/
theorem turn_of_ordinary (config : Config) (b : Bindings) {line : String} (h : Ordinary line) :
    ∃ log, turn r config b line =
      .reply (lineBlock r (execute config.language b line).result) log
        (execute config.language b line).bindings := by
  unfold turn
  rw [if_neg h.trim_ne_empty, if_neg h.notVars, if_neg h.notClear]
  rcases hresult : (execute config.language b line).result with f | v
  · refine ⟨(execute config.language b line).log ++ [.failed line], ?_⟩
    simp only [hresult]
    rfl
  · refine ⟨(execute config.language b line).log, ?_⟩
    simp only [hresult]
    rfl

theorem replies_of_ordinary (config : Config) (b : Bindings) {lines : List String}
    (h : ∀ line ∈ lines, Ordinary line) :
    replies r config b lines = (results config.language b lines).map (lineBlock r) := by
  induction lines generalizing b with
  | nil => rfl
  | cons line rest ih =>
    obtain ⟨log, hturn⟩ := turn_of_ordinary r config b (h line List.mem_cons_self)
    rw [replies, hturn, results, List.map_cons,
      ← ih _ fun other hother => h other (List.mem_cons_of_mem _ hother)]

theorem length_results (lang : Language) (b : Bindings) (lines : List String) :
    (results lang b lines).length = lines.length := by
  induction lines generalizing b with
  | nil => rfl
  | cons line rest ih => rw [results, List.length_cons, ih, List.length_cons]

/-! ## The two ways to run lines -/

/-- The replies with a prompt before each and a last prompt, or with a first prompt and one after
each. -/
theorem join_between (prompt : String) (blocks : List String) :
    prompt ++ String.join (blocks.map (· ++ prompt)) =
      String.join (blocks.map (prompt ++ ·)) ++ prompt := by
  induction blocks with
  | nil => simp
  | cons block rest ih =>
    simp only [List.map_cons, String.join_cons, String.append_assoc]
    rw [ih]

/-- A dialogue writes its replies with a prompt after each. -/
theorem converse_output (config : Config) (b : Bindings) (lines : List String) :
    (converse r config b lines).output =
      String.join ((replies r config b lines).map (· ++ promptText r config)) := by
  induction lines generalizing b with
  | nil => rfl
  | cons line rest ih =>
    rw [converse, replies]
    cases turn r config b line with
    | quit => rfl
    | reply block log b' => simp only [ih b', List.map_cons, String.join_cons]

/-- A batch writes the blocks of its lines up to the first that fails. -/
theorem batch_eq (lang : Language) (b : Bindings) (lines : List String) :
    ∃ log, batch r lang b lines =
      ⟨String.join (((results lang b lines).map (lineBlock r)).take
          ((results lang b lines).findIdx hasFailed + 1)), log,
        if (results lang b lines).any hasFailed then 1 else 0⟩ := by
  induction lines generalizing b with
  | nil => exact ⟨[], rfl⟩
  | cons line rest ih =>
    rcases hresult : (execute lang b line).result with f | v
    · refine ⟨(execute lang b line).log, ?_⟩
      simp [batch, results, hresult, hasFailed, lineBlock, List.findIdx_cons]
    · obtain ⟨more, hmore⟩ := ih (execute lang b line).bindings
      refine ⟨(execute lang b line).log ++ more, ?_⟩
      simp [batch, results, hresult, hmore, hasFailed, lineBlock, List.findIdx_cons]

/-! ## Lines left out -/

/-- Leaving out lines that fail changes the result of no other line. -/
theorem results_without (lang : Language) (b : Bindings) (lines : List String) (drop : Nat → Bool)
    (h : ∀ i, drop i = true → ∃ f, (results lang b lines)[i]? = some (.error f)) :
    results lang b (Workspace.without drop lines) =
      Workspace.without drop (results lang b lines) := by
  induction lines generalizing b drop with
  | nil => rfl
  | cons line rest ih =>
    have hrest := ih (execute lang b line).bindings (fun i => drop (i + 1)) fun i hi => h (i + 1) hi
    by_cases hdrop : drop 0 = true
    · obtain ⟨f, hf⟩ := h 0 hdrop
      have hsame : (execute lang b line).bindings = b := bindings_of_failed (Option.some.inj hf)
      rw [hsame] at hrest
      simp only [Workspace.without, results, if_pos hdrop, hsame]
      exact hrest
    · simp only [Workspace.without, results, if_neg hdrop, hrest]

/-! ## The program -/

section

variable {r : Rendering} {env : Environment} {path : Option String} {config : Config}
  {lines args : List String}
  (hconfig : Config.resolve env (path.map Path.ofText) = .ok config)
  (hlines : ∀ line ∈ lines, Ordinary line)

include hconfig hlines

/-- What the program leaves behind when it is given lines as arguments. -/
theorem run_evaluate (hargs : Invocation.ofArguments args = .ok (.evaluate lines path))
    (input : String) :
    ∃ errors, CommandLine.run r env args input =
      .ok ⟨if (results config.language .empty lines).any hasFailed then 1 else 0,
        String.join ((replies r config .empty lines).take
          ((results config.language .empty lines).findIdx hasFailed + 1)), errors⟩ := by
  obtain ⟨log, hbatch⟩ := batch_eq r config.language .empty lines
  refine ⟨CommandLine.logText config.level log, ?_⟩
  unfold CommandLine.run
  rw [hargs]
  simp only [CommandLine.withConfig, hconfig, hbatch]
  rw [replies_of_ordinary r config .empty hlines]
  rfl

/-- What the program leaves behind when it reads lines from its input. -/
theorem run_interact (hargs : Invocation.ofArguments args = .ok (.interact path)) {input : String}
    (hinput : Feeds lines input.toList) :
    ∃ errors, CommandLine.run r env args input =
      .ok ⟨0, bannerText r config ++
        (String.join ((replies r config .empty lines).map (promptText r config ++ ·)) ++
          promptText r config), errors⟩ := by
  have hread := CommandLine.inputLines_of_feeds hinput fun line hline => (hlines line hline).isSingle
  refine ⟨CommandLine.logText config.level (converse r config .empty lines).log, ?_⟩
  unfold CommandLine.run
  rw [hargs, ← join_between]
  simp only [CommandLine.withConfig, hconfig, hread, CommandLine.ofTranscript, interact, opening,
    converse_output, String.append_assoc]

end

/-- A batch and a dialogue agree on lines for the language, however texts appear on the screen. Given
them as arguments, the program writes the blocks that it writes between the prompts of a dialogue, up to
the first line that fails, and ends with code 1 if there is one; a double dash before them is needed
only where a line begins with a dash. Reading them from its input, it answers every line and ends with
code 0; and with any of the lines that fail left out of the input, the others are answered by the
same blocks. -/
theorem batch_agrees_with_dialogue (r : Rendering) (env : Environment) (path : Option String)
    (config : Config) (hconfig : Config.resolve env (path.map Path.ofText) = .ok config)
    (lines : List String) (hne : lines ≠ []) (hlines : ∀ line ∈ lines, Ordinary line) :
    let rs := results config.language .empty lines
    let blocks := replies r config .empty lines
    let prompt := promptText r config
    (Invocation.ofArguments ("eval" :: (Invocation.configOption path ++ "--" :: lines)) =
        .ok (.evaluate lines path) ∧
      ((∀ line ∈ lines, line.toList.head? ≠ some '-') →
        Invocation.ofArguments ("eval" :: (Invocation.configOption path ++ lines)) =
          .ok (.evaluate lines path)) ∧
      ∀ args input, Invocation.ofArguments args = .ok (.evaluate lines path) →
        ∃ errors, CommandLine.run r env args input =
          .ok ⟨if rs.any hasFailed then 1 else 0,
            String.join (blocks.take (rs.findIdx hasFailed + 1)), errors⟩) ∧
    (Invocation.ofArguments ("repl" :: Invocation.configOption path) = .ok (.interact path) ∧
      blocks.length = lines.length ∧
      ∀ args input, Invocation.ofArguments args = .ok (.interact path) →
        Feeds lines input.toList →
        ∃ errors, CommandLine.run r env args input =
          .ok ⟨0, bannerText r config ++ (String.join (blocks.map (prompt ++ ·)) ++ prompt),
            errors⟩) ∧
    ∀ (drop : Nat → Bool), (∀ i, drop i = true → ∃ f, rs[i]? = some (.error f)) →
      ∀ args input, Invocation.ofArguments args = .ok (.interact path) →
        Feeds (Workspace.without drop lines) input.toList →
        ∃ errors, CommandLine.run r env args input =
          .ok ⟨0, bannerText r config ++
            (String.join ((Workspace.without drop blocks).map (prompt ++ ·)) ++ prompt),
            errors⟩ := by
  intro rs blocks prompt
  have hblocks : blocks = rs.map (lineBlock r) := replies_of_ordinary r config .empty hlines
  refine ⟨⟨Invocation.ofArguments_evaluate path hne, Invocation.ofArguments_evaluate_plain path hne,
    ?_⟩, ⟨Invocation.ofArguments_interact path, ?_, ?_⟩, ?_⟩
  · intro args input hargs
    exact run_evaluate hconfig hlines hargs input
  · rw [hblocks, List.length_map]
    exact length_results config.language .empty lines
  · intro args input hargs hinput
    exact run_interact hconfig hlines hargs hinput
  · intro drop hdrop args input hargs hinput
    have hordinary : ∀ line ∈ Workspace.without drop lines, Ordinary line :=
      fun line hline => hlines line (Workspace.mem_of_mem_without hline)
    have hsame : replies r config .empty (Workspace.without drop lines) =
        Workspace.without drop blocks := by
      rw [replies_of_ordinary r config .empty hordinary, results_without _ _ _ _ hdrop, hblocks,
        Workspace.map_without]
    rw [← hsame]
    exact run_interact hconfig hordinary hargs hinput

/-- Three lines of which the second fails: a batch shows two blocks, a dialogue three, and without the
second line the dialogue shows the other two. -/
theorem batch_agrees_with_dialogue_past_failure :
    let env := Environment.ofFiles ⟨[], []⟩
    let one := resultBlock .terminal (.value (.scalar (Numeral.toDouble ⟨false, ['1'], []⟩)))
    let fault := faultBlock .terminal (.evaluation (.undefined "y"))
    let greeting := Display.printed "Enter an expression to evaluate, or an empty line to quit."
    let prompt := Display.shown ">>> "
    (∃ errors, CommandLine.run .terminal env ["eval", "--", "x = 1", "y = x + y", "x"] "" =
      .ok ⟨1, String.join [one, fault], errors⟩) ∧
    (∃ errors, CommandLine.run .terminal env ["eval", "x = 1", "y = x + y", "x"] "" =
      .ok ⟨1, String.join [one, fault], errors⟩) ∧
    (∃ errors, CommandLine.run .terminal env ["repl"] "x = 1\ny = x + y\r\nx" =
      .ok ⟨0, greeting ++ (String.join [prompt ++ one, prompt ++ fault, prompt ++ one] ++ prompt),
        errors⟩) ∧
    ∃ errors, CommandLine.run .terminal env ["repl"] "x = 1\nx\n" =
      .ok ⟨0, greeting ++ (String.join [prompt ++ one, prompt ++ one] ++ prompt), errors⟩ := by
  intro env one fault greeting prompt
  let config : Config := ⟨.standard, ">>> ", true, true, .warning⟩
  let lines := ["x = 1", "y = x + y", "x"]
  have hconfig : Config.resolve env none = .ok config := by
    have hmissing : env.kindOf (Path.child ⟨.slash, []⟩ Config.fileName) = .error .missing := rfl
    rw [Config.resolve_of_missing rfl rfl hmissing]
    exact Config.ofTable_nil _
  have hlines : ∀ line ∈ lines, Ordinary line := by
    simp only [lines, List.forall_mem_cons, List.not_mem_nil, false_imp_iff, implies_true, and_true]
    refine ⟨⟨?_, ?_, ⟨'x', ?_⟩, ?_, ?_⟩, ⟨?_, ?_, ⟨'y', ?_⟩, ?_, ?_⟩, ⟨?_, ?_, ⟨'x', ?_⟩, ?_, ?_⟩⟩
    all_goals decide +kernel
  have hresults : results .standard .empty lines =
      [.ok (.value (.scalar (Numeral.toDouble ⟨false, ['1'], []⟩))),
        .error (.evaluation (.undefined "y")),
        .ok (.value (.scalar (Numeral.toDouble ⟨false, ['1'], []⟩)))] := by decide +kernel
  have hplain : ∀ line ∈ lines, line.toList.head? ≠ some '-' := by decide +kernel
  have hblocks : replies .terminal config .empty lines = [one, fault, one] := by
    rw [replies_of_ordinary .terminal config .empty hlines, hresults]
    rfl
  obtain ⟨⟨hbatch, hdirect, hstops⟩, ⟨hdialogue, _, hanswers⟩, herased⟩ :=
    batch_agrees_with_dialogue .terminal env none config hconfig lines (by decide) hlines
  have hnewline : ['\n'] ∈ CommandLine.lineEnds := by decide
  have hreturn : ['\r', '\n'] ∈ CommandLine.lineEnds := by decide
  rw [hblocks] at hstops hanswers herased
  rw [hresults] at hstops herased
  refine ⟨hstops _ "" hbatch, hstops _ "" (hdirect hplain), hanswers _ _ hdialogue ?_,
    herased (· == 1) ?_ _ _ hdialogue ?_⟩
  · exact .line "x = 1" hnewline (.line "y = x + y" hreturn (.last "x"))
  · intro i hi
    obtain rfl : i = 1 := by simpa using hi
    exact ⟨_, rfl⟩
  · exact .line "x = 1" hnewline (.line "x" hnewline .done)

end PlaneCalc.Shell

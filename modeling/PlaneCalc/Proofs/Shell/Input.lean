import PlaneCalc.CommandLine

/-!
# How lines reach the shell

A batch is given its lines as arguments, a dialogue reads them from an input in which every line but
the last has an end, of whatever kind. Both ways the shell gets the lines it was given:
`ofArguments_evaluate` for arguments behind a double dash, where none is taken for an option,
`ofArguments_evaluate_plain` for arguments that begin with no dash, and `inputLines_of_feeds` for an
input.
-/

namespace PlaneCalc

/-! ## Lines as arguments -/

namespace Invocation

/-- The arguments that name a configuration file. -/
def configOption : Option String → List String
  | none => []
  | some path => ["--config", path]

theorem splitProgramOptions_of_not_option {arg : String} (h : isOption arg = false)
    (rest : List String) : splitProgramOptions (arg :: rest) = .ok ([], arg :: rest) := by
  rw [splitProgramOptions]
  · rw [h]
    rfl
  · rintro rfl
    nomatch h

theorem arguments_configOption (path : Option String) {rest positional : List String}
    (h : arguments rest = .ok ⟨positional, none, false⟩) :
    arguments (configOption path ++ rest) = .ok ⟨positional, path, false⟩ := by
  rcases path with _ | path
  · exact h
  · have hoption : isOption "--config" = true := by decide
    have hnamed : commandOption "--config" = .ok (.config none) := rfl
    show arguments ("--config" :: path :: rest) = _
    rw [arguments, if_pos hoption, hnamed]
    · show (arguments rest >>= _) = _
      rw [h]
      rfl
    · simp

theorem ofArguments_eval (path : Option String) {rest lines : List String}
    (hrest : arguments rest = .ok ⟨lines, none, false⟩) (h : lines ≠ []) :
    ofArguments ("eval" :: (configOption path ++ rest)) = .ok (.evaluate lines path) := by
  have hcommand : isOption "eval" = false := by decide
  unfold ofArguments
  rw [splitProgramOptions_of_not_option hcommand]
  show (arguments (configOption path ++ rest) >>= _) = _
  rw [arguments_configOption path hrest]
  show (if lines.isEmpty then _ else _) = _
  rw [if_neg (by simpa using h)]
  rfl

/-- Lines behind a double dash are the lines of a batch. -/
theorem ofArguments_evaluate (path : Option String) {lines : List String} (h : lines ≠ []) :
    ofArguments ("eval" :: (configOption path ++ "--" :: lines)) = .ok (.evaluate lines path) :=
  ofArguments_eval path (by rw [arguments]) h

theorem isOption_of_head? {arg : String} (h : arg.toList.head? ≠ some '-') :
    isOption arg = false := by
  unfold isOption
  split
  · rename_i harg
    rw [harg] at h
    exact absurd rfl h
  · rfl

/-- Arguments that are no options are kept as they are. -/
theorem arguments_of_not_option {lines : List String} (h : ∀ line ∈ lines, isOption line = false) :
    arguments lines = .ok ⟨lines, none, false⟩ := by
  induction lines with
  | nil => rw [arguments]
  | cons line rest ih =>
    have hline := h line List.mem_cons_self
    have hrest := ih fun other hother => h other (List.mem_cons_of_mem _ hother)
    have hdashes : line ≠ "--" := by
      rintro rfl
      nomatch hline
    -- a path may follow an option, so the definition looks at the next argument as well
    cases rest with
    | nil =>
      rw [arguments, hline]
      · rfl
      · exact hdashes
    | cons next rest =>
      rw [arguments, hline, hrest]
      · rfl
      · exact hdashes

/-- Lines that begin with no dash are the lines of a batch also without a double dash before them. -/
theorem ofArguments_evaluate_plain (path : Option String) {lines : List String} (h : lines ≠ [])
    (hplain : ∀ line ∈ lines, line.toList.head? ≠ some '-') :
    ofArguments ("eval" :: (configOption path ++ lines)) = .ok (.evaluate lines path) :=
  ofArguments_eval path
    (arguments_of_not_option fun line hline => isOption_of_head? (hplain line hline)) h

theorem ofArguments_interact (path : Option String) :
    ofArguments ("repl" :: configOption path) = .ok (.interact path) := by
  have hcommand : isOption "repl" = false := by decide
  unfold ofArguments
  rw [splitProgramOptions_of_not_option hcommand, ← List.append_nil (configOption path)]
  show (arguments (configOption path ++ []) >>= _) = _
  rw [arguments_configOption path (by rw [arguments])]
  rfl

end Invocation

/-! ## Lines from an input -/

/-- Without a carriage return a text has its line ends written as newlines already. -/
theorem plainLineEnds_append {line : List Char} (h : '\r' ∉ line) (rest : List Char) :
    plainLineEnds (line ++ rest) = line ++ plainLineEnds rest := by
  induction line with
  | nil => rfl
  | cons c line ih =>
    rw [List.mem_cons, not_or] at h
    rw [List.cons_append, plainLineEnds, ih h.2, List.cons_append]
    · rintro r rfl
      exact absurd rfl h.1
    · rintro rfl
      exact absurd rfl h.1

namespace CommandLine

/-- The ways to end a line. -/
def lineEnds : List (List Char) := [['\n'], ['\r', '\n'], ['\r']]

/-- An input that holds lines in order, each with an end of some kind; the last may do without. -/
inductive Feeds : List String → List Char → Prop where
  | done : Feeds [] []
  | last (line : String) : Feeds [line] line.toList
  | line (line : String) {lineEnd : List Char} (hend : lineEnd ∈ lineEnds) {rest : List String}
      {text : List Char} (h : Feeds rest text) : Feeds (line :: rest) (line.toList ++ (lineEnd ++ text))

/-- A line that is not empty and holds no line end. -/
structure IsSingle (line : String) : Prop where
  ne_nil : line.toList ≠ []
  newline : '\n' ∉ line.toList
  carriageReturn : '\r' ∉ line.toList

theorem plainLineEnds_lineEnd {lineEnd : List Char} (h : lineEnd ∈ lineEnds) {rest : List Char}
    (hrest : rest.head? ≠ some '\n') : plainLineEnds (lineEnd ++ rest) = '\n' :: plainLineEnds rest := by
  simp only [lineEnds, List.mem_cons, List.not_mem_nil, or_false] at h
  rcases h with rfl | rfl | rfl
  · have hplain : '\r' ∉ ['\n'] := by decide
    exact plainLineEnds_append hplain rest
  · show plainLineEnds ('\r' :: '\n' :: rest) = _
    rw [plainLineEnds]
  · show plainLineEnds ('\r' :: rest) = _
    rw [plainLineEnds]
    rintro r rfl
    exact hrest rfl

theorem Feeds.head?_ne {lines : List String} {text : List Char} (h : Feeds lines text)
    (hlines : ∀ line ∈ lines, IsSingle line) : text.head? ≠ some '\n' := by
  have hhead : ∀ line rest, IsSingle line → (line.toList ++ rest).head? ≠ some '\n' := by
    intro line rest hline heq
    obtain ⟨c, cs, hcs⟩ := List.exists_cons_of_ne_nil hline.ne_nil
    rw [hcs] at heq
    have hc : c = '\n' := Option.some.inj heq
    exact hline.newline (by rw [hcs, hc]; exact List.mem_cons_self)
  rcases h with _ | line | ⟨line, _, _⟩
  · nofun
  · rw [← List.append_nil line.toList]
    exact hhead line [] (hlines line List.mem_cons_self)
  · exact hhead line _ (hlines line List.mem_cons_self)

/-- Split at its newlines, an input gives its lines, and an empty piece if the last has an end. -/
theorem Feeds.splitOn {lines : List String} {text : List Char} (h : Feeds lines text)
    (hlines : ∀ line ∈ lines, IsSingle line) :
    (plainLineEnds text).splitOn '\n' = lines.map String.toList ++ [[]] ∨
      (plainLineEnds text).splitOn '\n' = lines.map String.toList := by
  induction h with
  | done => exact .inl rfl
  | last line =>
    have hline := hlines line List.mem_cons_self
    have hplain := plainLineEnds_append hline.carriageReturn []
    rw [List.append_nil] at hplain
    refine .inr ?_
    rw [hplain, plainLineEnds, List.append_nil]
    exact List.splitOn_eq_singleton hline.newline
  | line line hend h ih =>
    have hline := hlines line List.mem_cons_self
    have hrest := fun other hother => hlines other (List.mem_cons_of_mem _ hother)
    rw [plainLineEnds_append hline.carriageReturn, plainLineEnds_lineEnd hend (h.head?_ne hrest),
      List.splitOn_append_cons_of_beq _ _ (beq_self_eq_true _),
      List.splitOn_eq_singleton hline.newline]
    exact (ih hrest).imp (congrArg (line.toList :: ·)) (congrArg (line.toList :: ·))

/-- An input gives the lines that it holds. -/
theorem inputLines_of_feeds {lines : List String} {input : String}
    (h : Feeds lines input.toList) (hlines : ∀ line ∈ lines, IsSingle line) :
    inputLines input = lines := by
  have hback : (lines.map String.toList).map String.ofList = lines := by
    rw [List.map_map]
    exact (List.map_congr_left fun line _ => String.ofList_toList).trans (List.map_id lines)
  unfold inputLines
  rcases h.splitOn hlines with hsplit | hsplit
  · rw [hsplit, List.map_append, hback]
    simp
  · rw [hsplit, hback]
    -- no line is empty, so the last piece is kept
    have hlast : lines.getLast? ≠ some "" := by
      intro heq
      exact (hlines "" (List.mem_of_getLast? heq)).ne_nil rfl
    exact if_neg hlast

end CommandLine

end PlaneCalc

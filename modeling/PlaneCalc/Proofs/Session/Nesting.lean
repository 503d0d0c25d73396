import PlaneCalc.Proofs.Evaluation.LeftToRight
import PlaneCalc.Proofs.Session.Safety

/-!
# Only parentheses nest

A chain associates to the left, so a long line makes a tree that is deep on the left only. On the right
an operator nests deeper by one level for the products of a sum, by one for the terms of a product, and
then not before the next parenthesis: the nesting on the right is bounded by the parentheses, whatever
the length of the line (`rightNesting_le_of_derives`).

The reader gives up for depth only behind more open parentheses than it has levels. `Patient` says so of
one rule, and the combinators keep it, since what a rule has found leaves no parenthesis open. Together
the two bounds show that a line with few nested parentheses meets neither limit.
-/

namespace PlaneCalc

namespace Grammar

/-! ## Nesting on the right -/

/-- How many operators a phrase of a rank nests on the right before its first parenthesis. -/
def Rank.nesting : Rank → Nat
  | .term => 0
  | .product => 1
  | .sum => 2

/-- Operators nest on the right at most twice for each level of parentheses, and twice outside. -/
theorem rightNesting_le_of_derives {r : Rank} {w : List Char} {e : Expr} (h : Derives r w e) :
    e.rightNesting ≤ 2 * groupDepth w + r.nesting := by
  induction h with
  | number _ => exact Nat.zero_le _
  | vector _ _ => exact Nat.zero_le _
  | name _ => exact Nat.zero_le _
  | group hw ih =>
    -- the two levels of the sum inside are what its parenthesis adds to the bound
    rw [hw.balanced.groupDepth_group]
    simp only [Rank.nesting] at ih ⊢
    omega
  | factor _ ih =>
    simp only [Rank.nesting] at ih ⊢
    omega
  | summand _ ih =>
    simp only [Rank.nesting] at ih ⊢
    omega
  | scale _ hl _ ihl ihr =>
    rw [hl.balanced.groupDepth_link, Expr.rightNesting]
    simp only [Rank.nesting] at ihl ihr ⊢
    omega
  | extend _ hl _ ihl ihr =>
    rw [hl.balanced.groupDepth_link, Expr.rightNesting]
    simp only [Rank.nesting] at ihl ihr ⊢
    omega

theorem rightNesting_le_of_sentence {lang : Language} {w : List Char} {s : Statement}
    (h : Sentence lang w s) : s.body.rightNesting ≤ 2 * groupDepth w + 2 := by
  cases h with
  | expression h => exact rightNesting_le_of_derives h
  | assignment hn h =>
    rw [groupDepth_assignment lang hn]
    exact rightNesting_le_of_derives h

/-- What comes first is nested no deeper than the whole. -/
theorem groupDepth_le_append (u v : List Char) : groupDepth u ≤ groupDepth (u ++ v) := by
  induction u with
  | nil => exact Nat.zero_le _
  | cons c u ih =>
    rw [List.cons_append]
    unfold groupDepth
    split
    · omega
    · split <;> omega

end Grammar

namespace Reading

open Grammar

variable {α β : Type} {levels : Nat}

/-! ## Giving up for depth -/

/-- A rule that gives up for depth only behind a text with more than `levels` open parentheses. -/
def Patient (levels : Nat) (rule : List Char → Reading α) : Prop :=
  ∀ input rest, rule input = .failed .nestedTooDeeply rest →
    ∃ u, input = u ++ rest ∧ levels < groupDepth u

/-- A rule that leaves no parenthesis open in what it finds. -/
def Closes (rule : List Char → Reading α) : Prop :=
  ∀ input a rest, rule input = .found a rest → ∃ u, input = u ++ rest ∧ Balanced u

theorem Faithful.closes {P : List Char → α → Prop} {rule : List Char → Reading α}
    (h : Faithful P rule) (hP : ∀ u a, P u a → Balanced u) : Closes rule := by
  intro input a rest hfound
  obtain ⟨u, hu, hPu⟩ := h.found hfound
  exact ⟨u, hu, hP u a hPu⟩

/-- A rule that does not count levels. -/
theorem patient_of_ne {rule : List Char → Reading α}
    (h : ∀ input rest, rule input ≠ .failed .nestedTooDeeply rest) : Patient levels rule :=
  fun input rest hfailed => absurd hfailed (h input rest)

theorem Patient.map {rule : List Char → Reading α} (h : Patient levels rule) (f : α → β) :
    Patient levels (fun input => (rule input).map f) :=
  fun input rest hfailed => h input rest (map_eq_failed.mp hfailed)

theorem Patient.orElse {rule other : List Char → Reading α} (h : Patient levels rule)
    (ho : Patient levels other) :
    Patient levels (fun input => (rule input).orElse fun _ => other input) := by
  intro input rest hfailed
  rcases orElse_eq_failed.mp hfailed with hr | ⟨_, hr⟩
  · exact h input rest hr
  · exact ho input rest hr

theorem Patient.orFail {rule : List Char → Reading α} (h : Patient levels rule)
    (cause : SyntaxCause) (hcause : cause ≠ .nestedTooDeeply) :
    Patient levels (fun input => (rule input).orFail cause input) := by
  intro input rest hfailed
  rcases orFail_eq_failed.mp hfailed with hr | ⟨_, hdeep, _⟩
  · exact h input rest hr
  · exact absurd hdeep hcause

/-- What the first rule found is balanced, so it takes nothing from the depth behind it. -/
theorem Patient.andThen {rule : List Char → Reading α} {next : α → List Char → Reading β}
    (h : Patient levels rule) (hcloses : Closes rule) (hnext : ∀ a, Patient levels (next a)) :
    Patient levels (fun input => (rule input).andThen next) := by
  intro input rest hfailed
  rcases andThen_eq_failed.mp hfailed with hr | ⟨a, mid, hr, hn⟩
  · exact h input rest hr
  · obtain ⟨u, rfl, hu⟩ := hcloses input a mid hr
    obtain ⟨v, rfl, hv⟩ := hnext a mid rest hn
    refine ⟨u ++ v, by rw [List.append_assoc], ?_⟩
    rw [hu v]
    omega

end Reading

namespace Grammar

open Reading

variable {lang : Language} {levels : Nat}

/-! ## Atoms -/

theorem expect_patient (c : Char) : Patient levels (expect c) := by
  refine patient_of_ne fun input rest hfailed => ?_
  obtain ⟨hcause, _⟩ := expect_eq_failed.mp hfailed
  simp at hcause

theorem expect_closes {c : Char} (h : Flat [c]) : Closes (expect c) :=
  (expect_faithful c).closes fun _ _ hu => hu ▸ h.balanced

theorem numeral_patient : Patient levels Numeral.read := by
  refine patient_of_ne fun input rest hfailed => ?_
  have hrun := Numeral.run_read input
  rw [hfailed] at hrun
  nomatch hrun

theorem name_patient (lang : Language) : Patient levels (name lang) := by
  refine patient_of_ne fun input rest hfailed => ?_
  have hrun := nameRun_name lang input
  rw [hfailed] at hrun
  nomatch hrun

theorem name_closes (lang : Language) : Closes (name lang) :=
  name_faithful.closes fun _ _ ⟨hn, _⟩ => (flat_of_isName hn).balanced

theorem component_patient : Patient levels component :=
  (numeral_patient.map Numeral.toDouble).orFail .componentMissing (by simp)

theorem component_closes : Closes component :=
  component_faithful.closes fun _ _ ⟨_, hn, hu, _⟩ => hu ▸ (flat_text hn).balanced

theorem closing_patient (c : Char) (e : Expr) :
    Patient levels (fun input => (expect c input).andThen fun _ rest => .found e rest) := by
  intro input rest hfailed
  rcases andThen_eq_failed.mp hfailed with hr | ⟨_, mid, _, hn⟩
  · exact expect_patient c input rest hr
  · simp at hn

theorem vector_patient : Patient levels vector := by
  have hcomponents : Patient levels components :=
    component_patient.andThen component_closes fun x =>
      (expect_patient ',').andThen (expect_closes (by simp [Flat])) fun _ =>
        component_patient.andThen component_closes fun y =>
          closing_patient ']' _
  intro input rest hfailed
  unfold vector at hfailed
  split at hfailed
  · obtain ⟨u, rfl, hu⟩ := hcomponents _ rest hfailed
    exact ⟨'[' :: u, rfl, hu⟩
  · simp at hfailed

/-! ## Chains -/

section

variable {operators : List Operator} {operand : List Char → Reading Expr}

theorem links_patient (h : Patient levels operand) (hcloses : Closes operand) (rounds : Nat)
    (left : Expr) : Patient levels (links operators operand rounds left) := by
  induction rounds generalizing left with
  | zero => exact patient_of_ne fun input rest => by simp [links]
  | succ rounds ih =>
    intro input rest hfailed
    cases input with
    | nil => simp [links] at hfailed
    | cons c input =>
      rw [links] at hfailed
      split at hfailed
      · simp at hfailed
      · rename_i op hop
        obtain ⟨_, rfl⟩ := ofSymbol?_eq_some hop
        have hoperand : Closes fun input => (operand input).orFail (.operandMissing op) input :=
          fun input a mid hfound => hcloses input a mid (orFail_eq_found.mp hfound)
        have hround := (h.orFail (.operandMissing op) (by simp)).andThen hoperand
          fun right => ih (.binary op left right)
        obtain ⟨u, rfl, hu⟩ := hround input rest hfailed
        refine ⟨op.symbol :: u, rfl, ?_⟩
        rwa [← List.singleton_append, (flat_symbol op).groupDepth_append]

theorem chain_patient (h : Patient levels operand) (hcloses : Closes operand) :
    Patient levels (chain operators operand) :=
  h.andThen hcloses fun first input rest => links_patient h hcloses input.length first input rest

end

/-! ## Terms, products, sums and groups -/

section

variable {inner : List Char → Reading Expr}

theorem termWith_patient (h : Patient levels inner) : Patient levels (termWith lang inner) :=
  (numeral_patient.map _).orElse (vector_patient.orElse (((name_patient lang).map _).orElse h))

/-- A sum gives up where a group in it does. -/
theorem sumWith_patient (hinner : Faithful (Derives .term) inner) (h : Patient levels inner) :
    Patient levels (sumWith lang inner) := by
  have hterm : Closes (termWith lang inner) :=
    (termWith_faithful hinner).closes fun _ _ hu => hu.balanced
  have hproduct : Closes (productWith lang inner) :=
    (productWith_faithful hinner).closes fun _ _ hu => hu.balanced
  exact chain_patient (chain_patient (termWith_patient h) hterm) hproduct

/-- A sum that has to come, and what has to come after it. -/
theorem dueSum_patient {α : Type} (lang : Language) (hinner : Faithful (Derives .term) inner)
    (h : Patient levels inner) (cause : SyntaxCause) (hcause : cause ≠ .nestedTooDeeply)
    {next : Expr → List Char → Reading α} (hnext : ∀ e, Patient levels (next e)) :
    Patient levels (fun input =>
      ((sumWith lang inner input).orFail cause input).andThen next) := by
  refine ((sumWith_patient hinner h).orFail cause hcause).andThen ?_ hnext
  intro input e rest hfound
  have hsum : Closes (sumWith lang inner) :=
    (sumWith_faithful hinner).closes fun _ _ hu => hu.balanced
  exact hsum input e rest (orFail_eq_found.mp hfound)

end

/-- Each level that a group takes is a parenthesis that it leaves open. -/
theorem group_patient (lang : Language) (levels : Nat) : Patient levels (group lang levels) := by
  induction levels with
  | zero =>
    intro input rest hfailed
    rcases @opens_group lang _ 0 (fun _ => rfl) input with habsent | ⟨tail, rfl, hbody⟩
    · simp [habsent] at hfailed
    · obtain ⟨-, rfl⟩ := Reading.failed.inj (hbody.symm.trans hfailed)
      exact ⟨['('], rfl, by decide⟩
  | succ levels ih =>
    intro input rest hfailed
    rcases @opens_group lang _ (levels + 1) (fun _ => rfl) input with
      habsent | ⟨tail, rfl, hbody⟩
    · simp [habsent] at hfailed
    · have hinside := dueSum_patient lang (group_faithful levels) ih .groupEmpty (by simp)
        (closing_patient ')')
      obtain ⟨u, rfl, hu⟩ := hinside tail rest (hbody.symm.trans hfailed)
      refine ⟨'(' :: u, rfl, ?_⟩
      rw [groupDepth, if_pos rfl]
      omega

/-! ## Lines -/

theorem atEnd_patient {α : Type} (cause : SyntaxCause) (h : cause ≠ .nestedTooDeeply) (a : α) :
    Patient levels (atEnd cause a) := by
  refine patient_of_ne fun input rest hfailed => ?_
  cases input with
  | nil => simp [atEnd] at hfailed
  | cons c input => exact h (Reading.failed.inj hfailed).1

theorem assigned_patient (lang : Language) (levels : Nat) (target : String) :
    Patient levels (assigned lang levels target) := by
  intro input rest hfailed
  cases input with
  | nil => simp [assigned] at hfailed
  | cons c input =>
    rw [assigned] at hfailed
    split at hfailed
    · rename_i hc
      have hvalue := dueSum_patient lang (group_faithful levels) (group_patient lang levels)
        (.valueMissing lang.symbol) (by simp)
        fun value => atEnd_patient .trailingAfterAssignment (by simp) (target, value)
      obtain ⟨u, rfl, hu⟩ := hvalue input rest hfailed
      refine ⟨c :: u, rfl, ?_⟩
      rwa [hc, ← List.singleton_append, (flat_assign lang).groupDepth_append]
    · simp at hfailed

/-- A line is given up for depth only if its parentheses are nested deeper than the levels. -/
theorem line_patient (lang : Language) (levels : Nat) : Patient levels (line lang levels) := by
  have hassignment := (name_patient lang).andThen (name_closes lang) (assigned_patient lang levels)
  have hexpression := dueSum_patient lang (group_faithful levels) (group_patient lang levels)
    .statementMissing (by simp) (atEnd_patient .trailingInput (by simp))
  exact (hassignment.map _).orElse (hexpression.map _)

end Grammar

/-! ## Evaluation -/

/-- An operator refuses its operands or divides by zero; it is never nested too deeply. -/
theorem Operator.apply_ne_tooDeep (op : Operator) (l r : Operand) :
    op.apply l r ≠ .error .nestedTooDeeply := by
  intro h
  cases l with
  | foreign type => simp [apply] at h
  | value v =>
    cases r with
    | foreign type => simp [apply] at h
    | value w =>
      obtain ⟨_, _, hfault⟩ := apply_eq_error h
      simp at hfault

/-- By plain recursion no expression is nested too deeply. -/
theorem Expr.value_ne_tooDeep (b : Bindings) (e : Expr) : e.value b ≠ .error .nestedTooDeeply := by
  induction e with
  | literal v => simp [value]
  | reference name =>
    unfold value Bindings.lookup
    split <;> simp
  | binary op left right ihl ihr =>
    intro h
    rcases bind_eq_error.mp h with hleft | ⟨l, _, h⟩
    · exact ihl hleft
    rcases bind_eq_error.mp h with hright | ⟨r, _, h⟩
    · exact ihr hright
    exact op.apply_ne_tooDeep l r h

/-! ## Lines -/

/-- A fault of nesting, met while a line is read or while it is evaluated. -/
def Fault.TooDeep : Fault → Prop
  | reading f => f.cause = .nestedTooDeeply
  | evaluation f => f = .nestedTooDeeply

theorem rightNesting_le_of_parse {lang : Language} {line : String} {s : Statement}
    (h : parse lang line = .ok s) :
    s.body.rightNesting ≤ 2 * Grammar.groupDepth (Text.compact line) + 2 :=
  Grammar.rightNesting_le_of_sentence (Grammar.sentence_of_line (Grammar.parse_eq_ok_iff.mp h))

/-- With parentheses within the limit of the reader, a line is not nested too deeply to be read. -/
theorem not_tooDeep_of_parse {lang : Language} {line : String} {f : Fault}
    (hdepth : Grammar.groupDepth (Text.compact line) ≤ Grammar.groupLimit)
    (h : parse lang line = .error f) : ¬ f.TooDeep := by
  obtain ⟨cause, rest, hfailed, rfl⟩ := Grammar.parse_eq_error_iff.mp h
  intro hdeep
  obtain rfl : cause = .nestedTooDeeply := hdeep
  obtain ⟨u, hu, hopen⟩ := Grammar.line_patient lang Grammar.groupLimit _ rest hfailed
  have hprefix := Grammar.groupDepth_le_append u rest
  rw [← hu] at hprefix
  omega

/-- Within the limit of evaluation, an expression is not nested too deeply to be evaluated. -/
theorem not_tooDeep_of_evaluate {e : Expr} (h : e.rightNesting ≤ Expr.nestingLimit) {b : Bindings}
    {f : Fault} (hf : (e.evaluate b).mapError .evaluation = .error f) : ¬ f.TooDeep := by
  rw [Expr.evaluate_eq_value b h] at hf
  cases hvalue : e.value b with
  | ok v => simp [hvalue, Except.mapError] at hf
  | error g =>
    rw [hvalue] at hf
    obtain rfl := Except.error.inj hf
    intro hdeep
    obtain rfl : g = .nestedTooDeeply := hdeep
    exact e.value_ne_tooDeep b hvalue

/-- A line that fails while it is read into the bindings fails when it is run. -/
theorem execute_of_parseInto {lang : Language} {b : Bindings} {line : String} {f : Fault}
    (h : (parseInto lang b line).1 = .error f) : (execute lang b line).result = .error f := by
  unfold execute
  split <;> simp_all

/-- Long chains never meet a limit. A line that can be read makes a tree whose operators nest on the
right at most twice for each level of its parentheses and twice outside, whatever its length. So a line
whose parentheses are nested at most 99 deep is nested too deeply neither for looking at it nor for
running it, whatever the variables hold. -/
theorem chains_never_too_deep (lang : Language) (line : String) :
    (∀ s, parse lang line = .ok s →
      s.body.rightNesting ≤ 2 * Grammar.groupDepth (Text.compact line) + 2) ∧
    (Grammar.groupDepth (Text.compact line) ≤ 99 →
      (∀ f, parse lang line = .error f → ¬ f.TooDeep) ∧
      ∀ b, (∀ f, (parseInto lang b line).1 = .error f → ¬ f.TooDeep) ∧
        ∀ f, (execute lang b line).result = .error f → ¬ f.TooDeep) := by
  refine ⟨fun s => rightNesting_le_of_parse, fun hdepth => ?_⟩
  have hparse : ∀ f, parse lang line = .error f → ¬ f.TooDeep :=
    fun f => not_tooDeep_of_parse (hdepth.trans (by decide))
  have hexecute : ∀ b f, (execute lang b line).result = .error f → ¬ f.TooDeep := by
    intro b f hf
    cases hread : parse lang line with
    | error g =>
      rw [execute_eq, hread] at hf
      obtain rfl := Except.error.inj hf
      exact hparse g hread
    | ok s =>
      -- 99 levels of parentheses nest operators at most 200 deep, which is within the limit
      have hbody : s.body.rightNesting ≤ Expr.nestingLimit := by
        have hnesting := rightNesting_le_of_parse hread
        unfold Expr.nestingLimit
        omega
      rw [execute_of_parse hread b] at hf
      exact not_tooDeep_of_evaluate hbody hf
  refine ⟨hparse, fun b => ⟨fun f hf => ?_, hexecute b⟩⟩
  exact hexecute b f (execute_of_parseInto hf)

/-- A quotient in a sum in a product in a difference, which nests as deep on the right as one pair of
parentheses allows. -/
theorem chains_never_too_deep_at_the_bound :
    let line := "x = a - b - c * d * (e + f / g)"
    let inside := Expr.binary .add (.reference "e") (.binary .div (.reference "f") (.reference "g"))
    let value := Expr.binary .sub (.binary .sub (.reference "a") (.reference "b"))
      (.binary .mul (.binary .mul (.reference "c") (.reference "d")) inside)
    parse .standard line = .ok (.assignment "x" value) ∧
      Grammar.groupDepth (Text.compact line) = 1 ∧ value.rightNesting = 4 ∧
      value.rightNesting ≤ 2 * Grammar.groupDepth (Text.compact line) + 2 ∧
      ∀ b f, (execute .standard b line).result = .error f → ¬ f.TooDeep := by
  intro line inside value
  have hparse : parse .standard line = .ok (.assignment "x" value) := by decide +kernel
  have hdepth : Grammar.groupDepth (Text.compact line) = 1 := by decide +kernel
  obtain ⟨hnesting, hshallow⟩ := chains_never_too_deep .standard line
  refine ⟨hparse, hdepth, rfl, hnesting _ hparse, fun b => ?_⟩
  exact ((hshallow (by omega)).2 b).2

end PlaneCalc

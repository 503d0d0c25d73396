import PlaneCalc.Proofs.Grammar.Recognition
import PlaneCalc.Session

/-!
# Committing while reading

An assignment takes effect in the middle of reading its line, and what it leaves behind stays, also
where it fails. That makes no difference: nothing that comes after the commit can fail, so a line can as
well be read first, without any bindings, and its statement be evaluated afterwards.
`statement_eq_parse` says so for any state and any way to commit; `parseInto_eq` and `execute_eq` say
what it means for the bindings of a session, whose evaluation leaves them alone where it fails.
-/

namespace PlaneCalc

/-! ## Reading and committing -/

namespace Grammar

/-- Reading with a commit is reading without one, and then one commit if the line is an assignment. -/
theorem statement_eq_parse {σ α : Type} (lang : Language) (text : String) (state : σ)
    (commit : String → Expr → σ → Except EvalFault α × σ) :
    statement lang (Text.compact text) state commit =
      match parse lang text with
      | .error f => (.error f, state)
      | .ok (.expression e) => (.ok (.expression e), state)
      | .ok (.assignment target value) =>
        match commit target value state with
        | (.error f, state') => (.error (.evaluation f), state')
        | (.ok _, state') => (.ok (.assignment target value), state') := by
  rw [statement_eq, parse_eq]
  cases line lang groupLimit (Text.compact text) with
  | absent => rfl
  | failed cause rest => rfl
  | found s rest => cases s <;> rfl

end Grammar

/-- A recorded name holds what was recorded. -/
theorem Bindings.lookup_record_self (b : Bindings) (name : String) (v : Operand) :
    (b.record name v).lookup name = .ok v := by
  rw [lookup, find?_record, if_pos rfl]

/-! ## Lines against bindings -/

/-- Reading a line into bindings, by what the line stands for. -/
theorem parseInto_eq (lang : Language) (b : Bindings) (line : String) :
    parseInto lang b line =
      match parse lang line with
      | .error f => (.error f, b)
      | .ok (.expression e) => (.ok (.expression e), b)
      | .ok (.assignment target value) =>
        match value.evaluate b with
        | .error f => (.error (.evaluation f), b)
        | .ok v => (.ok (.assignment target value), b.record target v) := by
  rw [parseInto, Grammar.statement_eq_parse]
  cases parse lang line with
  | error f => rfl
  | ok s =>
    cases s with
    | expression e => rfl
    | assignment target value =>
      simp only [Statement.evaluate]
      cases value.evaluate b <;> rfl

/-- Running a line, by what the line stands for. -/
theorem execute_eq (lang : Language) (b : Bindings) (line : String) :
    execute lang b line =
      match parse lang line with
      | .error f => ⟨.error f, b, [.executing line]⟩
      | .ok (.expression e) => ⟨(e.evaluate b).mapError .evaluation, b, [.executing line]⟩
      | .ok (.assignment target value) =>
        match value.evaluate b with
        | .error f => ⟨.error (.evaluation f), b, [.executing line]⟩
        | .ok v => ⟨.ok v, b.record target v, [.executing line, .bound target v]⟩ := by
  rw [execute, parseInto_eq]
  cases parse lang line with
  | error f => rfl
  | ok s =>
    cases s with
    | expression e =>
      simp only [Statement.evaluate]
      cases e.evaluate b <;> rfl
    | assignment target value =>
      simp only
      cases value.evaluate b with
      | error f => rfl
      | ok v => simp only [Bindings.lookup_record_self]

/-- A statement that was read has the outcome of its body. -/
theorem execute_of_parse {lang : Language} {line : String} {s : Statement}
    (h : parse lang line = .ok s) (b : Bindings) :
    (execute lang b line).result = (s.body.evaluate b).mapError .evaluation := by
  rw [execute_eq, h]
  cases s with
  | expression e => rfl
  | assignment target value =>
    simp only [Statement.body]
    cases value.evaluate b <;> rfl

namespace Statement

variable {target : String} {e : Expr} {b : Bindings}

theorem bindings_of_value {v : Operand} (h : e.evaluate b = .ok v) :
    ((assignment target e).evaluate b).2 = b.record target v := by
  rw [evaluate, h]

theorem bindings_of_fault {f : EvalFault} (h : e.evaluate b = .error f) :
    ((assignment target e).evaluate b).2 = b := by
  rw [evaluate, h]

end Statement

/-- An assignment leaves the bindings that its evaluation gives, whether it succeeds or not. -/
theorem bindings_of_assignment {lang : Language} {line target : String} {e : Expr}
    (h : parse lang line = .ok (.assignment target e)) (b : Bindings) :
    (execute lang b line).bindings = ((Statement.assignment target e).evaluate b).2 := by
  rw [execute_eq, h]
  simp only [Statement.evaluate]
  cases e.evaluate b <;> rfl

/-- Committing while a line is read agrees with reading it first and evaluating it afterwards. A line
that cannot be read fails in the same way and changes nothing; an expression is evaluated against the
bindings as they are; an assignment has the outcome of its evaluation against the bindings before the
line, which is recorded once and is what looking up the target then gives. -/
theorem commit_agrees_with_evaluation (lang : Language) (b : Bindings) (line : String) :
    (∀ f, parse lang line = .error f →
      parseInto lang b line = (.error f, b) ∧
        execute lang b line = ⟨.error f, b, [.executing line]⟩) ∧
    (∀ e, parse lang line = .ok (.expression e) →
      parseInto lang b line = (.ok (.expression e), b) ∧
        execute lang b line =
          ⟨((Statement.expression e).evaluate b).1.mapError .evaluation, b, [.executing line]⟩) ∧
    ∀ target value, parse lang line = .ok (.assignment target value) →
      (∀ f b', (Statement.assignment target value).evaluate b = (.error f, b') →
        b' = b ∧ parseInto lang b line = (.error (.evaluation f), b) ∧
          execute lang b line = ⟨.error (.evaluation f), b, [.executing line]⟩) ∧
      ∀ v b', (Statement.assignment target value).evaluate b = (.ok v, b') →
        value.evaluate b = .ok v ∧ b' = b.record target v ∧
          parseInto lang b line = (.ok (.assignment target value), b') ∧
          b'.lookup target = .ok v ∧
          execute lang b line = ⟨.ok v, b', [.executing line, .bound target v]⟩ := by
  rw [parseInto_eq, execute_eq]
  refine ⟨?_, ?_, ?_⟩
  · intro f hparse
    simp [hparse]
  · intro e hparse
    simp [hparse, Statement.evaluate]
  · intro target value hparse
    simp only [hparse, Statement.evaluate]
    cases hvalue : value.evaluate b with
    | error f => simp [eq_comm]
    | ok v =>
      refine ⟨by simp, ?_⟩
      rintro v' b' heq
      rw [Prod.mk.injEq, Except.ok.injEq] at heq
      obtain ⟨rfl, rfl⟩ := heq
      exact ⟨rfl, rfl, rfl, Bindings.lookup_record_self b target v, rfl⟩

/-- A line that cannot be read, an expression, and an assignment to a variable that it reads. -/
theorem commit_agrees_on_self_reference :
    let one := (⟨false, ['1'], []⟩ : Numeral).toDouble
    let b : Bindings := ⟨[("x", .value (.scalar one))]⟩
    let b' : Bindings := ⟨[("x", .value (.scalar (one + one)))]⟩
    execute .standard b "x = x +" =
        ⟨.error (.reading ⟨"x=x+".toList, 4, .operandMissing .add⟩), b, [.executing "x = x +"]⟩ ∧
      execute .standard b "x" = ⟨.ok (.value (.scalar one)), b, [.executing "x"]⟩ ∧
      execute .standard b "x = x + 1" =
        ⟨.ok (.value (.scalar (one + one))), b',
          [.executing "x = x + 1", .bound "x" (.value (.scalar (one + one)))]⟩ := by
  intro one b b'
  obtain ⟨hfault, _, _⟩ := commit_agrees_with_evaluation .standard b "x = x +"
  obtain ⟨_, hexpression, _⟩ := commit_agrees_with_evaluation .standard b "x"
  obtain ⟨_, _, hassignment⟩ := commit_agrees_with_evaluation .standard b "x = x + 1"
  refine ⟨(hfault _ ?_).2, (hexpression (.reference "x") ?_).2, ?_⟩
  · decide +kernel
  · decide +kernel
  · have hparse : parse .standard "x = x + 1" = .ok (.assignment "x"
        (.binary .add (.reference "x") (.literal (.scalar one)))) := by decide +kernel
    obtain ⟨_, _, _, _, hexecute⟩ := (hassignment _ _ hparse).2 _ b' rfl
    exact hexecute

end PlaneCalc

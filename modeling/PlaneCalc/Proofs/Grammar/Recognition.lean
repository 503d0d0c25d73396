import PlaneCalc.Proofs.Grammar.Completeness

/-!
# Reading a line recognises the grammar

`line` reads a whole line as one rule, for any number of levels that groups may be nested; with the
limit of the calculator it is what `statement` and `parse` do. It is faithful to the sentences of the
language, and it finds every sentence that is not nested too deeply, with the statement that the
sentence stands for. Hence a sentence stands for one statement only.
-/

namespace PlaneCalc.Grammar

open Reading

variable {lang : Language}

/-! ## A line as one rule -/

/-- The end of the line, which must follow what was found. -/
def atEnd {α : Type} (cause : SyntaxCause) (a : α) : List Char → Reading α
  | [] => .found a []
  | c :: rest => .failed cause (c :: rest)

/-- What follows the name of an assignment. -/
def assigned (lang : Language) (levels : Nat) (target : String) :
    List Char → Reading (String × Expr)
  | [] => .absent
  | c :: rest =>
    if c = lang.symbol then
      ((sum lang levels rest).orFail (.valueMissing lang.symbol) rest).andThen fun value =>
        atEnd .trailingAfterAssignment (target, value)
    else .absent

/-- A line with at most `levels` nested groups. -/
def line (lang : Language) (levels : Nat) (input : List Char) : Reading Statement :=
  (((name lang input).andThen (assigned lang levels)).map fun p => .assignment p.1 p.2).orElse
    fun _ => (((sum lang levels input).orFail .statementMissing input).andThen
      (atEnd .trailingInput)).map .expression

theorem assignment_eq (lang : Language) (input : List Char) :
    assignment lang input = (name lang input).andThen (assigned lang groupLimit) := by
  unfold assignment
  congr 1
  funext target rest
  cases rest with
  | nil => rfl
  | cons c rest =>
    simp only [assigned]
    split
    · congr 1
      funext value rest'
      cases rest' <;> rfl
    · rfl

theorem atEnd_found_rest {α : Type} {cause : SyntaxCause} {a b : α} {input rest : List Char}
    (h : atEnd cause a input = .found b rest) : rest = [] := by
  cases input with
  | nil => simpa [atEnd, eq_comm] using (Reading.found.inj h).2
  | cons c input => simp [atEnd] at h

theorem assigned_found_rest {levels : Nat} {target : String} {input rest : List Char}
    {p : String × Expr} (h : assigned lang levels target input = .found p rest) : rest = [] := by
  cases input with
  | nil => simp [assigned] at h
  | cons c input =>
    rw [assigned] at h
    split at h
    · obtain ⟨value, after, _, hend⟩ := andThen_eq_found.mp h
      exact atEnd_found_rest hend
    · simp at h

/-- An assignment that is found fills its line, so nothing is left for a second look to find. -/
theorem assignment_found_rest {input rest : List Char} {p : String × Expr}
    (h : assignment lang input = .found p rest) : rest = [] := by
  rw [assignment_eq] at h
  obtain ⟨target, mid, _, hassigned⟩ := andThen_eq_found.mp h
  exact assigned_found_rest hassigned

/-- A line is read first, and then its assignment is committed, once. -/
theorem statement_eq {σ α : Type} (lang : Language) (w : List Char) (state : σ)
    (commit : String → Expr → σ → Except EvalFault α × σ) :
    statement lang w state commit =
      match line lang groupLimit w with
      | .absent => (.error (.reading (.atRest w w .statementMissing)), state)
      | .failed cause rest => (.error (.reading (.atRest w rest cause)), state)
      | .found (.expression e) _ => (.ok (.expression e), state)
      | .found (.assignment target value) _ =>
        match commit target value state with
        | (.error f, state') => (.error (.evaluation f), state')
        | (.ok _, state') => (.ok (.assignment target value), state') := by
  rw [line, ← assignment_eq, statement]
  cases h : assignment lang w with
  | failed cause rest => rfl
  | found p rest =>
    obtain rfl := assignment_found_rest h
    rfl
  | absent =>
    simp only [Reading.map, Reading.orElse]
    cases sum lang groupLimit w with
    | absent => rfl
    | failed cause rest => rfl
    | found e rest => cases rest <;> rfl

theorem line_ne_absent (levels : Nat) (w : List Char) : line lang levels w ≠ .absent := by
  intro h
  obtain ⟨_, hexpression⟩ := orElse_eq_absent.mp h
  rcases andThen_eq_absent.mp (map_eq_absent.mp hexpression) with habsent | ⟨e, rest, _, hend⟩
  · exact orFail_ne_absent habsent
  · cases rest <;> simp [atEnd] at hend

/-! ## Sentences are what is found -/

theorem atEnd_faithful {α : Type} {P : List Char → α → Prop} {cause : SyntaxCause} {a : α}
    (h : P [] a) (hcause : Plain cause) : Faithful P (atEnd cause a) where
  found {input b rest} hfound := by
    cases input with
    | nil =>
      simp only [atEnd, Reading.found.injEq] at hfound
      obtain ⟨rfl, rfl⟩ := hfound
      exact ⟨[], rfl, h⟩
    | cons c input => simp [atEnd] at hfound
  failed {input cause' rest} hfailed := by
    cases input with
    | nil => simp [atEnd] at hfailed
    | cons c input =>
      simp only [atEnd, Reading.failed.injEq] at hfailed
      obtain ⟨rfl, rfl⟩ := hfailed
      exact ⟨[], [], a, rfl, h, hcause.blames _ _⟩

theorem assigned_faithful (levels : Nat) {letters : List Char} (hn : IsName letters) :
    Faithful (fun v p => Sentence lang (letters ++ v) (.assignment p.1 p.2))
      (assigned lang levels (String.ofList letters)) := by
  have hvalue : Faithful
      (fun v p => Sentence lang (letters ++ lang.symbol :: v) (.assignment p.1 p.2))
      (fun rest => ((sum lang levels rest).orFail (.valueMissing lang.symbol) rest).andThen
        fun value => atEnd .trailingAfterAssignment (String.ofList letters, value)) := by
    refine ((sum_faithful levels).orFail derives_zero.toSum ⟨rfl, by simp⟩).andThen ?_ ?_
    · intro w e hw
      refine atEnd_faithful ?_ ⟨rfl, by simp⟩
      rw [List.append_nil]
      exact .assignment hn hw
    · intro w e hw
      refine ⟨[], (String.ofList letters, e), ?_⟩
      rw [List.append_nil]
      exact .assignment hn hw
  refine hvalue.afterHead fun input => ?_
  cases input with
  | nil => exact .inl rfl
  | cons c rest =>
    by_cases hc : c = lang.symbol
    · subst hc
      exact .inr ⟨rest, rfl, if_pos rfl⟩
    · exact .inl (if_neg hc)

/-- A line is faithful to the sentences of the language. -/
theorem line_faithful (levels : Nat) : Faithful (Sentence lang) (line lang levels) := by
  have hassignment : Faithful (fun w (p : String × Expr) => Sentence lang w (.assignment p.1 p.2))
      (fun input => (name lang input).andThen (assigned lang levels)) := by
    refine name_faithful.andThen ?_ ?_
    · rintro letters _ ⟨hn, rfl⟩
      exact assigned_faithful levels hn
    · rintro letters _ ⟨hn, rfl⟩
      exact ⟨lang.symbol :: ['0'], (String.ofList letters, _), .assignment hn derives_zero.toSum⟩
  have hexpression : Faithful (Derives .sum)
      (fun input => ((sum lang levels input).orFail .statementMissing input).andThen
        (atEnd .trailingInput)) := by
    refine ((sum_faithful levels).orFail derives_zero.toSum ⟨rfl, by simp⟩).andThen ?_ ?_
    · intro w e hw
      exact atEnd_faithful (by rwa [List.append_nil]) ⟨rfl, by simp⟩
    · intro w e hw
      exact ⟨[], e, by rwa [List.append_nil]⟩
  exact (hassignment.map fun _ _ h => h).orElse (hexpression.map fun _ _ h => .expression h)

/-- What is found fills the line. -/
theorem line_found_rest {levels : Nat} {w rest : List Char} {s : Statement}
    (h : line lang levels w = .found s rest) : rest = [] := by
  rcases orElse_eq_found.mp h with hleft | ⟨_, hright⟩
  · obtain ⟨p, hp, _⟩ := map_eq_found.mp hleft
    obtain ⟨target, mid, _, hassigned⟩ := andThen_eq_found.mp hp
    exact assigned_found_rest hassigned
  · obtain ⟨e, he, _⟩ := map_eq_found.mp hright
    obtain ⟨e', mid, _, hend⟩ := andThen_eq_found.mp he
    exact atEnd_found_rest hend

/-- Whatever is found in a line is what the line derives. -/
theorem sentence_of_line {levels : Nat} {w rest : List Char} {s : Statement}
    (h : line lang levels w = .found s rest) : Sentence lang w s := by
  obtain ⟨u, rfl, hu⟩ := (line_faithful levels).found h
  rw [line_found_rest h, List.append_nil]
  exact hu

/-! ## Sentences are found -/

/-- A sum that begins with a name which runs on fails where the name does. -/
theorem sum_of_name_failed (levels : Nat) {input rest : List Char} {cause : SyntaxCause}
    (h : name lang input = .failed cause rest) : sum lang levels input = .failed cause rest := by
  have hrun := nameRun_name lang input
  rw [h] at hrun
  cases hrun with
  | runsOn hn _ _ =>
    show ((term lang levels _).andThen _).andThen _ = _
    rw [term_letters levels hn, reference, h]
    rfl

/-- A sum that begins with a name goes on behind it. -/
theorem sum_of_name_found (levels : Nat) {input rest : List Char} {target : String}
    (h : name lang input = .found target rest) :
    sum lang levels input =
      (loop Operator.multiplicative (term lang levels) (.reference target) rest).andThen
        (loop Operator.additive (product lang levels)) := by
  have hrun := nameRun_name lang input
  rw [h] at hrun
  cases hrun with
  | found hn he =>
    show ((term lang levels _).andThen _).andThen _ = _
    rw [term_name levels hn he]
    rfl

/-- The assignment symbol is no operator. -/
theorem symbol_ne_assign (lang : Language) (op : Operator) : op.symbol ≠ lang.symbol := by
  intro h
  refine lang.symbol_not_reserved (h ▸ ?_)
  cases op <;> decide

/-- No sum is read past an assignment symbol. -/
theorem sum_of_name_assign (levels : Nat) {input rest : List Char} {target : String}
    (h : name lang input = .found target (lang.symbol :: rest)) :
    sum lang levels input = .found (.reference target) (lang.symbol :: rest) := by
  have hstop : ∀ operators : List Operator,
      Stops (fun c => (Operator.ofSymbol? operators c).isSome) (lang.symbol :: rest) := by
    intro operators
    rw [stops_cons, Option.isSome_eq_false_iff, Option.isNone_iff_eq_none, Operator.ofSymbol?,
      List.find?_eq_none]
    intro op _
    simpa using symbol_ne_assign lang op
  rw [sum_of_name_found levels h, loop_of_stops _ (hstop _)]
  exact loop_of_stops _ (hstop _)

/-- The assignment symbol is no parenthesis. -/
theorem flat_assign (lang : Language) : Flat [lang.symbol] := by
  intro c hc
  rw [List.mem_singleton] at hc
  constructor <;> rintro rfl <;> exact lang.symbol_not_reserved (hc ▸ by decide)

theorem groupDepth_assignment (lang : Language) {letters : List Char} (hn : IsName letters)
    (w : List Char) : groupDepth (letters ++ lang.symbol :: w) = groupDepth w := by
  rw [(flat_of_isName hn).groupDepth_append]
  exact (flat_assign lang).groupDepth_append w

/-- A sentence is found in full if its groups are not nested too deeply. -/
theorem line_of_sentence {w : List Char} {s : Statement} (h : Sentence lang w s) {levels : Nat}
    (hdepth : groupDepth w ≤ levels) : line lang levels w = .found s [] := by
  cases h with
  | @expression w e h =>
    have hsum := sum_of_derives lang h hdepth
    -- the sum fills the line, so its name neither runs on nor is assigned to
    have habsent : (name lang w).andThen (assigned lang levels) = .absent := by
      cases hname : name lang w with
      | absent => rfl
      | failed cause rest => simp [sum_of_name_failed levels hname] at hsum
      | found target rest =>
        cases rest with
        | nil => rfl
        | cons c rest =>
          refine if_neg ?_
          rintro rfl
          simp [sum_of_name_assign levels hname] at hsum
    rw [line, habsent, hsum]
    rfl
  | @assignment letters w e hn h =>
    rw [groupDepth_assignment lang hn] at hdepth
    have hname : name lang (letters ++ lang.symbol :: w) =
        .found (String.ofList letters) (lang.symbol :: w) :=
      name_of_nameRun (.found hn (Language.endsName_cons.mpr (Or.inr rfl)))
    rw [line, hname]
    show (Reading.map _ (if lang.symbol = lang.symbol then _ else _)).orElse _ = _
    rw [if_pos rfl, sum_of_derives lang h hdepth]
    rfl

/-- A sentence stands for one statement. -/
theorem sentence_unique {w : List Char} {s s' : Statement} (h : Sentence lang w s)
    (h' : Sentence lang w s') : s = s' := by
  have hfound := line_of_sentence h (Nat.le_refl _)
  rw [line_of_sentence h' (Nat.le_refl _)] at hfound
  exact (Reading.found.inj hfound).1.symm

/-! ## Reading a line as text -/

/-- Looking at a line is reading it, with the faults placed in the line. -/
theorem parse_eq (lang : Language) (text : String) :
    parse lang text =
      match line lang groupLimit (Text.compact text) with
      | .found s _ => .ok s
      | .failed cause rest => .error (.reading (.atRest (Text.compact text) rest cause))
      | .absent => .error (.reading (.atRest (Text.compact text) (Text.compact text)
          .statementMissing)) := by
  rw [parse, statement_eq]
  cases line lang groupLimit (Text.compact text) with
  | absent => rfl
  | failed cause rest => rfl
  | found s rest => cases s <;> rfl

theorem parse_eq_ok_iff {text : String} {s : Statement} :
    parse lang text = .ok s ↔ line lang groupLimit (Text.compact text) = .found s [] := by
  rw [parse_eq]
  cases h : line lang groupLimit (Text.compact text) with
  | absent => simp
  | failed cause rest => simp
  | found s' rest =>
    have hrest := line_found_rest h
    subst hrest
    simp

theorem parse_eq_error_iff {text : String} {f : Fault} :
    parse lang text = .error f ↔
      ∃ cause rest, line lang groupLimit (Text.compact text) = .failed cause rest ∧
        f = .reading (.atRest (Text.compact text) rest cause) := by
  rw [parse_eq]
  cases h : line lang groupLimit (Text.compact text) with
  | absent => exact absurd h (line_ne_absent groupLimit _)
  | found s rest => simp
  | failed cause rest =>
    simp only [Except.error.injEq, Reading.failed.injEq]
    constructor
    · rintro rfl
      exact ⟨cause, rest, ⟨rfl, rfl⟩, rfl⟩
    · rintro ⟨_, _, ⟨rfl, rfl⟩, rfl⟩
      rfl

/-- Reading accepts exactly the sentences of the language, up to the nesting of groups, and builds
the statement that a sentence stands for, which is the only one. -/
theorem parse_recognises_sentences (lang : Language) (text : String) :
    (∀ s, parse lang text = .ok s → Sentence lang (Text.compact text) s) ∧
      (∀ s, Sentence lang (Text.compact text) s → groupDepth (Text.compact text) ≤ 200 →
        parse lang text = .ok s) ∧
      ∀ s s', Sentence lang (Text.compact text) s → Sentence lang (Text.compact text) s' →
        s = s' := by
  refine ⟨?_, ?_, ?_⟩
  · intro s h
    exact sentence_of_line (parse_eq_ok_iff.mp h)
  · intro s h hdepth
    exact parse_eq_ok_iff.mpr (line_of_sentence h (Nat.le_trans hdepth (by decide)))
  · intro s s' h h'
    exact sentence_unique h h'

/-- A negative numeral after a minus sign, a group and an assignment. -/
theorem parse_recognises_signed_operand :
    let one : Numeral := ⟨false, ['1'], []⟩
    let signed : Numeral := ⟨true, ['2'], ['5']⟩
    let s := Statement.assignment "x" (.binary .sub (.literal (.scalar one.toDouble))
      (.binary .mul (.literal (.scalar signed.toDouble)) (.reference "y")))
    Sentence .standard (Text.compact "x = 1 - -2.5 * (y)") s ∧
      groupDepth (Text.compact "x = 1 - -2.5 * (y)") ≤ 200 ∧
      parse .standard "x = 1 - -2.5 * (y)" = .ok s := by
  intro one signed s
  have hone : one.Regular := ⟨.positive (by decide) (by decide) (by simp), by simp [one]⟩
  have hsigned : signed.Regular :=
    ⟨.positive (by decide) (by decide) (by simp), List.forall_mem_singleton.mpr rfl⟩
  have hname : ∀ c : Char, c.isLower = true → IsName [c] := fun c hc => ⟨by simp, by simpa using hc⟩
  have hproduct : Derives .product "-2.5*(y)".toList _ :=
    .scale (show Operator.mul ∈ Operator.multiplicative by decide) (.factor (.number hsigned))
      (.group (.summand (.factor (.name (hname 'y' (by decide))))))
  have hsentence : Sentence .standard (Text.compact "x = 1 - -2.5 * (y)") s :=
    .assignment (hname 'x' (by decide))
      (.extend (show Operator.sub ∈ Operator.additive by decide)
        (.summand (.factor (.number hone))) hproduct)
  have hdepth : groupDepth (Text.compact "x = 1 - -2.5 * (y)") ≤ 200 := by decide +kernel
  exact ⟨hsentence, hdepth, (parse_recognises_sentences .standard _).2.1 s hsentence hdepth⟩

end PlaneCalc.Grammar

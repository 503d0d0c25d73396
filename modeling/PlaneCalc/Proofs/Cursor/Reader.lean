import PlaneCalc.Proofs.Cursor.Atom

/-!
# Lines with a cursor

The rules of the grammar for whole lines once more, as walks: a chain goes on as long as an operator
is matched, a group is left by its closing parenthesis, and where an assignment turns out to be none
the cursor goes back. Each walk does what its rule does, so no request is ever refused, every loop
ends, and every text that is taken for a number is a numeral.
-/

namespace PlaneCalc

theorem Operator.ofSymbol?_cons (first : Operator) (operators : List Operator) (c : Char) :
    ofSymbol? (first :: operators) c =
      if first.symbol = c then some first else ofSymbol? operators c := by
  by_cases h : first.symbol = c <;> simp [ofSymbol?, h]

namespace Walk

open Cursor

variable {lang : Language} {done rest : List Char}

/-! ## Chains -/

/-- The first operator of a list that is matched. -/
def operator (lang : Language) : List Operator → Walk (Option Operator)
  | [] => return none
  | op :: operators => do
    if ← test lang (.matchChar op.text) then return some op else operator lang operators

/-- The links of a chain after its first operand, in so many rounds. -/
def links (lang : Language) (operators : List Operator) (operand : Walk (Option Expr)) :
    Nat → Expr → Walk Expr
  | 0, _ => fun c => (.error (.mishap .endless), c)
  | rounds + 1, left => do
    match ← operator lang operators with
    | none => return left
    | some op =>
      let right ← operand.orFail (.operandMissing op)
      links lang operators operand rounds (.binary op left right)

/-- The links of a chain, a round for each character that is left and one to notice the end. -/
def loop (lang : Language) (operators : List Operator) (operand : Walk (Option Expr))
    (left : Expr) : Walk Expr := fun c =>
  links lang operators operand (c.rest.length + 1) left c

/-- A chain of operands. -/
def chain (lang : Language) (operators : List Operator) (operand : Walk (Option Expr)) :
    Walk (Option Expr) :=
  operand.andThen (loop lang operators operand)

section

variable {operators : List Operator}

theorem operator_of_some {c : Char} {op : Operator}
    (h : Operator.ofSymbol? operators c = some op) (done rest : List Char) :
    operator lang operators (between done (c :: rest)) =
      (.ok (some op), between (done ++ [c]) rest) := by
  induction operators with
  | nil => simp [Operator.ofSymbol?] at h
  | cons first operators ih =>
    rw [Operator.ofSymbol?_cons] at h
    by_cases hc : first.symbol = c
    · subst hc
      rw [if_pos rfl] at h
      obtain rfl := Option.some.inj h
      exact branch_of_true (test_matchChar_self done rest first.symbol)
    · rw [if_neg hc] at h
      have hne : ∀ more, c :: rest ≠ first.symbol :: more :=
        fun _ hcons => hc (List.cons.inj hcons).1.symm
      rw [operator, Operator.text, branch_of_false (test_matchChar_of_ne hne done)]
      exact ih h

theorem operator_of_stops
    (h : Stops (fun c => (Operator.ofSymbol? operators c).isSome) rest) (done : List Char) :
    operator lang operators (between done rest) = (.ok none, between done rest) := by
  induction operators with
  | nil => rfl
  | cons first operators ih =>
    have hne : ∀ more, rest ≠ first.symbol :: more := by
      rintro more rfl
      have hfirst := stops_cons.mp h
      rw [Operator.ofSymbol?_cons, if_pos rfl] at hfirst
      exact absurd hfirst (by simp)
    rw [operator, Operator.text, branch_of_false (test_matchChar_of_ne hne done)]
    refine ih fun c hc => ?_
    have hnone : (Operator.ofSymbol? (first :: operators) c).isSome = false := h c hc
    rw [Operator.ofSymbol?_cons, if_neg] at hnone
    · exact hnone
    · rintro rfl
      obtain ⟨more, hmore⟩ := List.head?_eq_some_iff.mp (Option.mem_def.mp hc)
      exact hne more hmore

theorem Follows.shrinks {operand : Walk (Option Expr)} {rule : List Char → Reading Expr}
    (h : Follows operand rule) : Grammar.Shrinks rule := by
  intro input a rest hread
  have hfinds := h [] input
  rw [hread] at hfinds
  exact hfinds.length_le

/-- As many rounds as there are characters, and one more, are enough: each takes an operator. -/
theorem links_arrives (lang : Language) (operators : List Operator)
    {operand : Walk (Option Expr)} {rule : List Char → Reading Expr} (h : Follows operand rule)
    {rounds : Nat} (left : Expr) (done : List Char) {input : List Char}
    (hrounds : input.length < rounds) :
    Arrives (links lang operators operand rounds left) done input
      (Grammar.loop operators rule left input) := by
  induction rounds generalizing left done input with
  | zero => omega
  | succ rounds ih =>
    by_cases hstop : Stops (fun c => (Operator.ofSymbol? operators c).isSome) input
    · rw [Grammar.loop_of_stops left hstop]
      refine .found (w := []) rfl ?_
      rw [links, bind_of_ok (operator_of_stops hstop done), List.append_nil]
      rfl
    · cases input with
      | nil => exact absurd stops_nil hstop
      | cons c rest =>
        rw [stops_cons, Bool.not_eq_false, Option.isSome_iff_exists] at hstop
        obtain ⟨op, hop⟩ := hstop
        rw [List.length_cons] at hrounds
        rw [Grammar.loop_cons h.shrinks hop]
        have hround : Arrives (operand.orFail (.operandMissing op) >>= fun right =>
            links lang operators operand rounds (.binary op left right)) (done ++ [c]) rest
            (((rule rest).orFail (.operandMissing op) rest).andThen fun right =>
              Grammar.loop operators rule (.binary op left right)) := by
          -- the operator is behind the cursor, so one round less is still enough
          have hoperand := h.orFail (.operandMissing op) trivial (done ++ [c]) rest
          refine hoperand.bind fun {right w rest'} hw _ => ?_
          refine ih (.binary op left right) (done ++ [c] ++ w) ?_
          rw [hw, List.length_append] at hrounds
          omega
        exact hround.of_step (w := [c]) rfl (bind_of_ok (operator_of_some hop done rest))

theorem loop_leads {operand : Walk (Option Expr)} {rule : List Char → Reading Expr}
    (h : Follows operand rule) (left : Expr) :
    Leads (loop lang operators operand left) (Grammar.loop operators rule left) := by
  intro done input
  have hlength : (between done input).rest.length = input.length := by rw [rest_between]
  have harrives := links_arrives lang operators h left done (Nat.lt_succ_self input.length)
  refine harrives.congr ?_
  rw [loop, hlength]

theorem chain_follows {operand : Walk (Option Expr)} {rule : List Char → Reading Expr}
    (h : Follows operand rule) :
    Follows (chain lang operators operand) (Grammar.chain operators rule) :=
  h.andThen (loop_leads h)

end

/-! ## Sums and groups -/

/-- A term, given what a group is. -/
def termWith (lang : Language) (inner : Walk (Option Expr)) : Walk (Option Expr) :=
  (number lang).orElse ((vector lang).orElse ((reference lang).orElse inner))

/-- A sum, given what a group is. -/
def sumWith (lang : Language) (inner : Walk (Option Expr)) : Walk (Option Expr) :=
  chain lang Operator.additive (chain lang Operator.multiplicative (termWith lang inner))

/-- A sum in parentheses, nested at most so many levels deep. -/
def group (lang : Language) : Nat → Walk (Option Expr)
  | 0 => after lang '(' (complain .nestedTooDeeply)
  | levels + 1 => after lang '(' do
    let e ← (sumWith lang (group lang levels)).orFail .groupEmpty
    expect lang ')'
    return e

/-- A sum with at most so many nested groups. -/
def sum (lang : Language) (levels : Nat) : Walk (Option Expr) := sumWith lang (group lang levels)

theorem termWith_follows {inner : Walk (Option Expr)} {rule : List Char → Reading Expr}
    (h : Follows inner rule) : Follows (termWith lang inner) (Grammar.termWith lang rule) :=
  number_follows.orElse (vector_follows.orElse (reference_follows.orElse h))

theorem sumWith_follows (lang : Language) {inner : Walk (Option Expr)}
    {rule : List Char → Reading Expr} (h : Follows inner rule) :
    Follows (sumWith lang inner) (Grammar.sumWith lang rule) :=
  chain_follows (chain_follows (termWith_follows h))

theorem group_follows (lang : Language) (levels : Nat) :
    Follows (group lang levels) (Grammar.group lang levels) := by
  induction levels with
  | zero =>
    have hdeep : Leads (complain .nestedTooDeeply : Walk Expr) (.failed .nestedTooDeeply) := by
      intro done input
      refine .failed (w := []) trivial rfl ?_
      rw [List.append_nil]
    exact follows_after hdeep (fun rest => rfl) fun _ => Grammar.group_of_ne_open lang 0
  | succ levels ih =>
    have hbody := ((sumWith_follows lang ih).orFail .groupEmpty trivial).bind fun e =>
      (expect_leads lang ')').bind fun _ => leads_pure e
    exact follows_after hbody (fun rest => rfl) fun _ => Grammar.group_of_ne_open lang (levels + 1)

theorem sum_follows (lang : Language) (levels : Nat) :
    Follows (sum lang levels) (Grammar.sum lang levels) :=
  sumWith_follows lang (group_follows lang levels)

/-! ## Lines -/

/-- The end of the line, which must follow what was found. -/
def ending {α : Type} (lang : Language) (cause : SyntaxCause) (a : α) : Walk α := do
  demand lang .atEnd cause
  return a

/-- What an assignment symbol commits to. -/
def assigned (lang : Language) (levels : Nat) (target : String) : Walk (String × Expr) := do
  let value ← (sum lang levels).orFail (.valueMissing lang.symbol)
  ending lang .trailingAfterAssignment (target, value)

/-- A name and an assignment symbol, with what they commit to. -/
def target (lang : Language) (levels : Nat) : Walk (Option (String × Expr)) := do
  match ← name lang with
  | none => return none
  | some target => after lang lang.symbol (assigned lang levels target)

/-- Back to a place, with nothing found. -/
def retreat {α : Type} (lang : Language) (start : Int) : Walk (Option α) := do
  let _ ← ask lang (.resetTo start)
  return none

/-- An assignment; where there is none, the cursor goes back to the place where it began. -/
def assignment (lang : Language) (levels : Nat) : Walk (Option (String × Expr)) := do
  let start ← ask lang .mark
  (target lang levels).orElse (retreat lang start.place)

/-- The statement of a line. -/
def statement (lang : Language) (levels : Nat) : Walk Statement := do
  let s ← (((assignment lang levels).andThen fun p => return .assignment p.1 p.2).orElse
    ((sum lang levels).andThen fun e => return .expression e)).orFail .statementMissing
  ending lang .trailingInput s

theorem ending_leads {α : Type} (lang : Language) (cause : SyntaxCause) (hcause : cause.OfLine)
    (a : α) :
    Leads (ending lang cause a) (Grammar.atEnd cause a) := by
  intro done input
  cases input with
  | nil =>
    refine .found (w := []) rfl ?_
    rw [ending, bind_of_ok (demand_of_true (test_atEnd done [])), List.append_nil]
    rfl
  | cons c rest =>
    refine .failed (w := []) hcause rfl ?_
    rw [ending, bind_of_error (demand_of_false (test_atEnd done (c :: rest))), List.append_nil]
    rfl

theorem retreat_between {α : Type} (done w rest : List Char) :
    retreat (α := α) lang done.length (between (done ++ w) rest) =
      (.ok none, between done (w ++ rest)) :=
  bind_of_ok (ask_resetTo done w rest)

theorem assigned_leads (lang : Language) (levels : Nat) (target : String) :
    Leads (assigned lang levels target) (fun rest =>
      ((Grammar.sum lang levels rest).orFail (.valueMissing lang.symbol) rest).andThen fun value =>
        Grammar.atEnd .trailingAfterAssignment (target, value)) :=
  ((sum_follows lang levels).orFail (.valueMissing lang.symbol) trivial).bind fun value =>
    ending_leads lang .trailingAfterAssignment trivial (target, value)

/-- A name without an assignment symbol is given up, and the cursor goes back over it. -/
theorem assignment_follows (lang : Language) (levels : Nat) :
    Follows (assignment lang levels) (fun input =>
      (Grammar.name lang input).andThen (Grammar.assigned lang levels)) := by
  intro done input
  have hstart : assignment lang levels (between done input) =
      (target lang levels).orElse (retreat lang done.length) (between done input) :=
    bind_of_ok (ask_mark done input)
  -- wherever the search for a target has come to, the cursor returns from there
  have hgiveUp : ∀ {w rest : List Char}, input = w ++ rest →
      target lang levels (between done input) = (.ok none, between (done ++ w) rest) →
      Finds (assignment lang levels) done input .absent := by
    intro w rest hw h
    refine .absent ?_
    rw [hstart, orElse, bind_of_ok h, hw]
    exact retreat_between done w rest
  have hname := name_follows lang done input
  show Finds _ _ _ ((Grammar.name lang input).andThen _)
  generalize Grammar.name lang input = r at hname
  cases hname with
  | absent h =>
    refine hgiveUp (w := []) rfl ?_
    rw [target, bind_of_ok h, List.append_nil]
    rfl
  | failed hcause hw h => exact .failed hcause hw (hstart.trans (bind_of_error (bind_of_error h)))
  | @found w rest name hw h =>
    show Finds _ _ _ (Grammar.assigned lang levels name rest)
    by_cases hsymbol : ∃ more, rest = lang.symbol :: more
    · obtain ⟨more, rfl⟩ := hsymbol
      have htarget : target lang levels (between done input) =
          (assigned lang levels name >>= fun p => pure (some p))
            (between (done ++ w ++ [lang.symbol]) more) :=
        (bind_of_ok h).trans (branch_of_true (test_matchChar_self (done ++ w) more lang.symbol))
      rw [List.append_assoc] at htarget
      have harrives := assigned_leads lang levels name (done ++ (w ++ [lang.symbol])) more
      have hfinds := harrives.finds_of_step (by rw [hw, List.append_assoc]; rfl) htarget
      have hread : Grammar.assigned lang levels name (lang.symbol :: more) = _ := if_pos rfl
      rw [hread]
      refine (hfinds.orElse _ ?_).congr hstart
      exact (Reading.orFail_answers _ _).andThen (fun value => Grammar.atEnd_answers _ _) more
    · have hne : ∀ more, rest ≠ lang.symbol :: more := fun more hmore => hsymbol ⟨more, hmore⟩
      have habsent : Grammar.assigned lang levels name rest = .absent := by
        cases rest with
        | nil => rfl
        | cons c rest => exact if_neg fun hc => hne rest (by rw [hc])
      rw [habsent]
      refine hgiveUp hw ?_
      rw [target, bind_of_ok h]
      exact branch_of_false (test_matchChar_of_ne hne (done ++ w))

/-- Reading with a cursor is reading by the rules. -/
theorem statement_leads (lang : Language) (levels : Nat) :
    Leads (statement lang levels) (Grammar.line lang levels) := by
  have hassignment := (assignment_follows lang levels).map fun p => Statement.assignment p.1 p.2
  have hchoice := hassignment.orElse ((sum_follows lang levels).map Statement.expression)
  have hleads := (hchoice.orFail .statementMissing trivial).bind fun s =>
    ending_leads lang .trailingInput trivial s
  have hline : Grammar.line lang levels = fun input =>
      (((((Grammar.name lang input).andThen (Grammar.assigned lang levels)).map fun p =>
        Statement.assignment p.1 p.2).orElse fun _ =>
          (Grammar.sum lang levels input).map Statement.expression).orFail
            .statementMissing input).andThen (Grammar.atEnd .trailingInput) := by
    funext input
    have hrest : ∀ {s rest}, Grammar.line lang levels input = .found s rest → rest = [] :=
      Grammar.line_found_rest
    rw [Grammar.line] at hrest ⊢
    cases hread : (Grammar.name lang input).andThen (Grammar.assigned lang levels) with
    | failed cause rest => rfl
    | found p rest =>
      -- an assignment fills the line, so asking for the end once more changes nothing
      rw [hread] at hrest
      obtain rfl := hrest rfl
      rfl
    | absent =>
      show Reading.map _ _ = _
      cases Grammar.sum lang levels input with
      | absent => rfl
      | failed cause rest => rfl
      | found e rest => cases rest <;> rfl
  rw [hline]
  exact hleads

/-- No line is blamed for a request that goes past its end. -/
theorem ofLine_of_line_failed {levels : Nat} {input rest : List Char} {cause : SyntaxCause}
    (h : Grammar.line lang levels input = .failed cause rest) : cause.OfLine := by
  have harrives := statement_leads lang levels [] input
  rw [h] at harrives
  cases harrives with
  | failed hcause _ _ => exact hcause

/-- With any levels, reading a line with a cursor ends as reading it by the rules does. -/
theorem statement_outcome (lang : Language) (levels : Nat) (text : String) :
    (statement lang levels (.ofLine text)).1 =
      match Grammar.line lang levels (Text.compact text) with
      | .found s _ => .ok s
      | .failed cause rest => .error (.fault (.reading (.atRest (Text.compact text) rest cause)))
      | .absent => .error (.fault (.reading (.atRest (Text.compact text) (Text.compact text)
          .statementMissing))) := by
  have harrives := statement_leads lang levels [] (Text.compact text)
  show (statement lang levels (between [] (Text.compact text))).1 = _
  generalize Grammar.line lang levels (Text.compact text) = r at harrives
  cases harrives with
  | found hw h => rw [h]
  | failed hcause hw h =>
    rw [h, hw]
    simp [complain, between, SyntaxFault.atRest]

/-- A line is read with a cursor as it is parsed: what stops the cursor is a fault of the line. -/
theorem statement_ofLine (lang : Language) (text : String) :
    (statement lang Grammar.groupLimit (.ofLine text)).1 = (parse lang text).mapError .fault := by
  rw [statement_outcome, Grammar.parse_eq]
  cases Grammar.line lang Grammar.groupLimit (Text.compact text) <;> rfl

end Walk

end PlaneCalc

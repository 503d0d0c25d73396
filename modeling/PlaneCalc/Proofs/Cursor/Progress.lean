import PlaneCalc.Proofs.Grammar.ViablePrefix
import PlaneCalc.Proofs.Session.Nesting

/-!
# Rules make progress or back out

A rule that finds nothing leaves the cursor where it stood, even one that has passed over a name
before it turned out to be no target. A rule that finds something has passed at least one character,
and a rule that fails leaves the cursor at the place that the fault reports, not before its start
(`Progresses`). This holds of every walk that follows a rule which consumes something.

Since a chain goes round by round, each round behind an operator and an operand, and a group looks
inside behind its parenthesis, every loop and every nested call begins farther on in the line. So
reading ends on every line, and with a level for each character it never gives up for depth.
-/

namespace PlaneCalc

/-! ## What rules consume -/

namespace Grammar

open Reading

variable {α : Type} {lang : Language} {levels : Nat}

/-- A rule that passes at least one character where it finds something. -/
def Consumes (rule : List Char → Reading α) : Prop :=
  ∀ {input a rest}, rule input = .found a rest → rest.length < input.length

theorem consumes_of_faithful {P : List Char → α → Prop} {rule : List Char → Reading α}
    (h : Faithful P rule) (hP : ∀ u a, P u a → u ≠ []) : Consumes rule := by
  intro input a rest hfound
  obtain ⟨u, rfl, hu⟩ := h.found hfound
  have hlength := List.length_pos_iff.mpr (hP u a hu)
  rw [List.length_append]
  omega

theorem Numeral.Regular.text_ne_nil {n : Numeral} (h : n.Regular) : n.text ≠ [] := by
  obtain ⟨d, ds, hwhole, _⟩ := h.whole.exists_cons
  simp [Numeral.text, hwhole]

/-- No phrase is empty. -/
theorem Derives.ne_nil {r : Rank} {w : List Char} {e : Expr} (h : Derives r w e) : w ≠ [] := by
  induction h with
  | number hn => exact Numeral.Regular.text_ne_nil hn
  | vector _ _ => exact List.cons_ne_nil _ _
  | name hn => exact hn.ne_nil
  | group _ _ => exact List.cons_ne_nil _ _
  | factor _ ih => exact ih
  | scale _ _ _ ih _ => exact List.append_ne_nil_of_left_ne_nil ih _
  | summand _ ih => exact ih
  | extend _ _ _ ih _ => exact List.append_ne_nil_of_left_ne_nil ih _

theorem group_consumes (lang : Language) (levels : Nat) : Consumes (group lang levels) :=
  consumes_of_faithful (group_faithful levels) fun _ _ => Derives.ne_nil

theorem term_consumes (lang : Language) (levels : Nat) : Consumes (term lang levels) :=
  consumes_of_faithful (term_faithful levels) fun _ _ => Derives.ne_nil

theorem product_consumes (lang : Language) (levels : Nat) : Consumes (product lang levels) :=
  consumes_of_faithful (product_faithful levels) fun _ _ => Derives.ne_nil

theorem sum_consumes (lang : Language) (levels : Nat) : Consumes (sum lang levels) :=
  consumes_of_faithful (sum_faithful levels) fun _ _ => Derives.ne_nil

/-- An assignment begins with a name. -/
theorem assignment_consumes (lang : Language) : Consumes (assignment lang) := by
  intro input p rest hfound
  rw [assignment_eq] at hfound
  obtain ⟨target, mid, hname, hassigned⟩ := andThen_eq_found.mp hfound
  obtain ⟨letters, rfl, hn, rfl⟩ := name_faithful.found hname
  obtain ⟨v, rfl, _⟩ := (assigned_faithful groupLimit hn).found hassigned
  have hlength := List.length_pos_iff.mpr hn.ne_nil
  simp only [List.length_append]
  omega

/-! ## Rounds of a chain -/

/-- An operator of a list at the front of the input. -/
def matched (operators : List Operator) : List Char → Reading Operator
  | [] => .absent
  | c :: rest =>
    match Operator.ofSymbol? operators c with
    | none => .absent
    | some op => .found op rest

/-- One round of a chain: an operator and its right operand. -/
def round (operators : List Operator) (operand : List Char → Reading Expr) (left : Expr)
    (input : List Char) : Reading Expr :=
  (matched operators input).andThen fun op rest =>
    ((operand rest).orFail (.operandMissing op) rest).andThen fun right rest' =>
      .found (.binary op left right) rest'

section

variable {operators : List Operator} {operand : List Char → Reading Expr}

theorem matched_of_stops {input : List Char}
    (h : Stops (fun c => (Operator.ofSymbol? operators c).isSome) input) :
    matched operators input = .absent := by
  cases input with
  | nil => rfl
  | cons c rest =>
    have hnone : Operator.ofSymbol? operators c = none := by simpa using stops_cons.mp h
    rw [matched, hnone]

theorem matched_cons {c : Char} {op : Operator} (h : Operator.ofSymbol? operators c = some op)
    (rest : List Char) : matched operators (c :: rest) = .found op rest := by
  rw [matched, h]

/-- The input begins with an operator, or nothing is matched. -/
theorem stops_or_operator (operators : List Operator) (input : List Char) :
    Stops (fun c => (Operator.ofSymbol? operators c).isSome) input ∨
      ∃ c op rest, input = c :: rest ∧ Operator.ofSymbol? operators c = some op := by
  cases input with
  | nil => exact .inl stops_nil
  | cons c rest =>
    cases h : Operator.ofSymbol? operators c with
    | none => exact .inl (stops_cons.mpr (by rw [h]; rfl))
    | some op => exact .inr ⟨c, op, rest, rfl, h⟩

/-- A loop goes from round to round, until no operator follows or an operand is missing. -/
theorem loop_eq_round (h : Shrinks operand) (left : Expr) (input : List Char) :
    loop operators operand left input =
      match round operators operand left input with
      | .absent => .found left input
      | .found longer rest => loop operators operand longer rest
      | .failed cause rest => .failed cause rest := by
  rcases stops_or_operator operators input with hstops | ⟨c, op, rest, rfl, hop⟩
  · rw [loop_of_stops left hstops, round, matched_of_stops hstops]
    rfl
  · have hround : round operators operand left (c :: rest) =
        ((operand rest).orFail (.operandMissing op) rest).andThen fun right rest' =>
          .found (.binary op left right) rest' := by
      rw [round, matched_cons hop]
      rfl
    rw [loop_cons h hop, hround]
    cases operand rest <;> rfl

theorem round_consumes (h : Shrinks operand) (left : Expr) :
    Consumes (round operators operand left) := by
  intro input longer rest hfound
  obtain ⟨op, mid, hmatched, hround⟩ := andThen_eq_found.mp hfound
  obtain ⟨right, rest', hoperand, hpure⟩ := andThen_eq_found.mp hround
  obtain ⟨_, rfl⟩ := Reading.found.inj hpure
  have hshorter := h mid right rest' (orFail_eq_found.mp hoperand)
  rcases stops_or_operator operators input with hstops | ⟨c, op', tail, rfl, hop⟩
  · rw [matched_of_stops hstops] at hmatched
    nomatch hmatched
  · rw [matched_cons hop] at hmatched
    obtain ⟨_, rfl⟩ := Reading.found.inj hmatched
    rw [List.length_cons]
    omega

end

/-! ## A level for every character -/

theorem groupDepth_le_length (w : List Char) : groupDepth w ≤ w.length := by
  induction w with
  | nil => exact Nat.le_refl 0
  | cons c w ih =>
    rw [groupDepth, List.length_cons]
    split
    · omega
    · split <;> omega

/-- With a level for each character, no line is given up for depth. -/
theorem line_length_ne_tooDeep (lang : Language) (input rest : List Char) :
    line lang input.length input ≠ .failed .nestedTooDeeply rest := by
  intro hfailed
  obtain ⟨u, hu, hopen⟩ := line_patient lang input.length input rest hfailed
  have hdepth := groupDepth_le_length u
  have hlength : input.length = u.length + rest.length := by rw [hu, List.length_append]
  omega

/-- With fewer levels a line is read just so, unless it is given up for depth; more change nothing. -/
theorem line_agree_length (lang : Language) (levels : Nat) (input : List Char) :
    AgreesUnlessDeep (line lang levels input) (line lang input.length input) := by
  rcases Nat.le_total levels input.length with hle | hle
  · exact line_agree lang hle input
  · rcases line_agree lang hle input with hsame | ⟨rest, hgave⟩
    · exact .inl hsame.symm
    · exact absurd hgave (line_length_ne_tooDeep lang input rest)

end Grammar

/-! ## Progress of walks -/

namespace Walk

open Cursor

variable {α : Type} {lang : Language}

/-- What a rule may do from a place of the line: it finds nothing and stands there again, or it finds
something and has got ahead, or it fails at the place that its fault reports. Giving up for depth is
apart. -/
inductive Progresses (c : Cursor) : Except Halt (Option α) × Cursor → Prop where
  | backsOut : Progresses c (.ok none, c)
  | advances {a : α} {j : Nat} (hahead : c.pos < j) (hend : j ≤ c.data.length) :
      Progresses c (.ok (some a), ⟨c.data, j⟩)
  | raises {cause : SyntaxCause} {j : Nat} (hcause : cause ≠ .nestedTooDeeply)
      (hstart : c.pos ≤ j) (hend : j ≤ c.data.length) :
      Progresses c (.error (.fault (.reading ⟨c.data, j, cause⟩)), ⟨c.data, j⟩)
  | givesUp {f : SyntaxFault} {c' : Cursor} (hdeep : f.cause = .nestedTooDeeply) :
      Progresses c (.error (.fault (.reading f)), c')

/-- A walk that does what a rule does and makes progress or backs out, wherever it begins. -/
structure Steps (walk : Walk (Option α)) (rule : List Char → Reading α) : Prop where
  follows : Follows walk rule
  progresses : ∀ c : Cursor, c.pos ≤ c.data.length → Progresses c (walk c)

/-- A walk that follows a rule which consumes something makes progress or backs out. -/
theorem Follows.steps {walk : Walk (Option α)} {rule : List Char → Reading α}
    (h : Follows walk rule) (hrule : Grammar.Consumes rule) : Steps walk rule := by
  refine ⟨h, fun c hc => ?_⟩
  rw [← between_take_rest hc]
  generalize c.data.take c.pos = done, c.rest = input
  have hfinds := h done input
  generalize hread : rule input = r at hfinds
  cases hfinds with
  | absent hwalk =>
    rw [hwalk]
    exact .backsOut
  | @found w rest a hw hwalk =>
    -- the rest is shorter than the input, so what was passed is not empty
    have hshorter := hrule hread
    rw [hwalk, between_append, ← hw]
    rw [hw, List.length_append] at hshorter
    refine .advances ?_ ?_
    · simp only [between]
      omega
    · simp only [between, hw, List.length_append]
      omega
  | @failed w rest cause _ hw hwalk =>
    rw [hwalk, between_append, ← hw]
    by_cases hdeep : cause = .nestedTooDeeply
    · exact .givesUp hdeep
    · refine .raises hdeep ?_ ?_
      · simp only [between]
        omega
      · simp only [between, hw, List.length_append]
        omega

/-! ## Rounds of a loop -/

section

variable {operators : List Operator}

/-- One round of a loop: an operator and its right operand. -/
def round (lang : Language) (operators : List Operator) (operand : Walk (Option Expr))
    (left : Expr) : Walk (Option Expr) :=
  (operator lang operators).andThen fun op => do
    let right ← operand.orFail (.operandMissing op)
    return .binary op left right

/-- A loop ends where a round finds no operator, and goes on behind every other round. -/
theorem links_succ (lang : Language) (operators : List Operator) (operand : Walk (Option Expr))
    (rounds : Nat) (left : Expr) :
    links lang operators operand (rounds + 1) left = (do
      match ← round lang operators operand left with
      | none => return left
      | some longer => links lang operators operand rounds longer) := by
  funext c
  rcases hop : operator lang operators c with ⟨halt | found, c'⟩
  · have hround : round lang operators operand left c = (.error halt, c') := bind_of_error hop
    rw [bind_of_error hround]
    exact bind_of_error hop
  · cases found with
    | none =>
      have hround : round lang operators operand left c = (.ok none, c') := bind_of_ok hop
      rw [bind_of_ok hround]
      exact bind_of_ok hop
    | some op =>
      have hround : round lang operators operand left c = ((do
          let right ← operand.orFail (.operandMissing op)
          return Expr.binary op left right) >>= fun e => pure (some e)) c' := bind_of_ok hop
      have hlinks : links lang operators operand (rounds + 1) left c =
          (operand.orFail (.operandMissing op) >>= fun right =>
            links lang operators operand rounds (.binary op left right)) c' := bind_of_ok hop
      rw [hlinks]
      rcases hright : operand.orFail (.operandMissing op) c' with ⟨halt | right, c''⟩
      · rw [bind_of_error (hround.trans (bind_of_error (bind_of_error hright)))]
        exact bind_of_error hright
      · rw [bind_of_ok (hround.trans (bind_of_ok (bind_of_ok hright)))]
        exact bind_of_ok hright

theorem operator_follows (lang : Language) (operators : List Operator) :
    Follows (operator lang operators) (Grammar.matched operators) := by
  intro done input
  rcases Grammar.stops_or_operator operators input with hstops | ⟨c, op, rest, rfl, hop⟩
  · rw [Grammar.matched_of_stops hstops]
    exact .absent (operator_of_stops hstops done)
  · rw [Grammar.matched_cons hop]
    exact .found (w := [c]) rfl (operator_of_some hop done rest)

theorem round_follows {operand : Walk (Option Expr)} {rule : List Char → Reading Expr}
    (h : Follows operand rule) (left : Expr) :
    Follows (round lang operators operand left) (Grammar.round operators rule left) :=
  (operator_follows lang operators).andThen fun op =>
    (h.orFail (.operandMissing op) trivial).bind fun right => leads_pure (Expr.binary op left right)

/-- A loop that goes round by round, each of which takes at least one character. -/
structure Rounds (lang : Language) (operators : List Operator) (operand : Walk (Option Expr))
    (rule : List Char → Reading Expr) : Prop where
  walked : ∀ rounds left, links lang operators operand (rounds + 1) left = (do
    match ← round lang operators operand left with
    | none => return left
    | some longer => links lang operators operand rounds longer)
  read : ∀ left input, Grammar.loop operators rule left input =
    match Grammar.round operators rule left input with
    | .absent => .found left input
    | .found longer rest => Grammar.loop operators rule longer rest
    | .failed cause rest => .failed cause rest
  steps : ∀ left, Steps (round lang operators operand left) (Grammar.round operators rule left)

theorem Follows.rounds {operand : Walk (Option Expr)} {rule : List Char → Reading Expr}
    (h : Follows operand rule) : Rounds lang operators operand rule where
  walked := links_succ lang operators operand
  read := Grammar.loop_eq_round h.shrinks
  steps left := (round_follows h left).steps (Grammar.round_consumes h.shrinks left)

end

/-! ## Terms, products and groups -/

/-- A term with at most so many nested groups. -/
def term (lang : Language) (levels : Nat) : Walk (Option Expr) := termWith lang (group lang levels)

/-- A product with at most so many nested groups. -/
def product (lang : Language) (levels : Nat) : Walk (Option Expr) :=
  chain lang Operator.multiplicative (term lang levels)

/-- What an opening parenthesis commits to. -/
def inside (lang : Language) (levels : Nat) : Walk Expr := do
  let e ← (sum lang levels).orFail .groupEmpty
  expect lang ')'
  return e

theorem term_follows (lang : Language) (levels : Nat) :
    Follows (term lang levels) (Grammar.term lang levels) :=
  termWith_follows (group_follows lang levels)

theorem product_follows (lang : Language) (levels : Nat) :
    Follows (product lang levels) (Grammar.product lang levels) :=
  chain_follows (term_follows lang levels)

/-- A group looks inside only behind its parenthesis. -/
theorem group_succ (lang : Language) (levels : Nat) (c : Cursor) (h : c.pos ≤ c.data.length) :
    group lang (levels + 1) c = (.ok none, c) ∨
      group lang (levels + 1) c =
        (inside lang levels >>= fun e => pure (some e)) ⟨c.data, c.pos + 1⟩ := by
  rw [← between_take_rest h]
  generalize c.data.take c.pos = done, c.rest = input
  by_cases hopen : ∃ rest, input = '(' :: rest
  · obtain ⟨rest, rfl⟩ := hopen
    refine .inr ((branch_of_true (test_matchChar_self done rest '(')).trans ?_)
    rw [between_append]
    rfl
  · have hne : ∀ rest, input ≠ '(' :: rest := fun rest hrest => hopen ⟨rest, hrest⟩
    exact .inl (branch_of_false (test_matchChar_of_ne hne done))

/-! ## Lines -/

/-- With a level for each character, a line is read or blamed for what it says. -/
theorem statement_ends (lang : Language) (text : String) :
    (∃ s, (statement lang (Text.compact text).length (.ofLine text)).1 = .ok s) ∨
      ∃ f, (statement lang (Text.compact text).length (.ofLine text)).1 =
        .error (.fault (.reading f)) ∧ f.cause ≠ .nestedTooDeeply := by
  rw [statement_outcome]
  cases hline : Grammar.line lang (Text.compact text).length (Text.compact text) with
  | absent => exact absurd hline (Grammar.line_ne_absent _ _)
  | found s rest => exact .inl ⟨s, rfl⟩
  | failed cause rest =>
    refine .inr ⟨_, rfl, ?_⟩
    rintro rfl
    exact Grammar.line_length_ne_tooDeep lang _ rest hline

/-- The limit on groups only ever makes the reader give up. -/
theorem parse_eq_statement (lang : Language) (text : String) :
    (parse lang text).mapError .fault =
        (statement lang (Text.compact text).length (.ofLine text)).1 ∨
      ∃ f, parse lang text = .error (.reading f) ∧ f.cause = .nestedTooDeeply := by
  rcases Grammar.line_agree_length lang Grammar.groupLimit (Text.compact text) with
    hsame | ⟨rest, hgave⟩
  · refine .inl ?_
    rw [← statement_ofLine, statement_outcome, statement_outcome, hsame]
  · exact .inr ⟨_, Grammar.parse_eq_error_iff.mpr ⟨_, rest, hgave, rfl⟩, rfl⟩

theorem assignment_steps (lang : Language) :
    Steps (assignment lang Grammar.groupLimit) (Grammar.assignment lang) := by
  refine Follows.steps ?_ (Grammar.assignment_consumes lang)
  intro done input
  rw [Grammar.assignment_eq]
  exact assignment_follows lang Grammar.groupLimit done input

/-- Every rule of the grammar makes progress or backs out. Wherever it begins, an assignment, a sum, a
product, a term or a group finds nothing and stands there again, or finds something and has passed at
least one character, or fails where its fault says. So does every round of the loop of a sum or a
product, and a group looks inside one character farther on. Hence reading ends on every line: with a
level for each character the line is read or blamed for what it says, and the limit on groups changes
that only where the reader gives up for depth. -/
theorem rules_progress_or_back_out (lang : Language) (levels : Nat) :
    (Steps (assignment lang Grammar.groupLimit) (Grammar.assignment lang) ∧
      Steps (sum lang levels) (Grammar.sum lang levels) ∧
      Steps (product lang levels) (Grammar.product lang levels) ∧
      Steps (term lang levels) (Grammar.term lang levels) ∧
      Steps (group lang levels) (Grammar.group lang levels)) ∧
    Rounds lang Operator.additive (product lang levels) (Grammar.product lang levels) ∧
    Rounds lang Operator.multiplicative (term lang levels) (Grammar.term lang levels) ∧
    (∀ c : Cursor, c.pos ≤ c.data.length →
      group lang (levels + 1) c = (.ok none, c) ∨
        group lang (levels + 1) c =
          (inside lang levels >>= fun e => pure (some e)) ⟨c.data, c.pos + 1⟩) ∧
    ∀ text,
      ((∃ s, (statement lang (Text.compact text).length (.ofLine text)).1 = .ok s) ∨
        ∃ f, (statement lang (Text.compact text).length (.ofLine text)).1 =
          .error (.fault (.reading f)) ∧ f.cause ≠ .nestedTooDeeply) ∧
      ((parse lang text).mapError .fault =
          (statement lang (Text.compact text).length (.ofLine text)).1 ∨
        ∃ f, parse lang text = .error (.reading f) ∧ f.cause = .nestedTooDeeply) := by
  have hsum := (sum_follows lang levels).steps (Grammar.sum_consumes lang levels)
  have hproduct := (product_follows lang levels).steps (Grammar.product_consumes lang levels)
  have hterm := (term_follows lang levels).steps (Grammar.term_consumes lang levels)
  have hgroup := (group_follows lang levels).steps (Grammar.group_consumes lang levels)
  exact ⟨⟨assignment_steps lang, hsum, hproduct, hterm, hgroup⟩, hproduct.follows.rounds,
    hterm.follows.rounds, group_succ lang levels,
    fun text => ⟨statement_ends lang text, parse_eq_statement lang text⟩⟩

/-- A name before a plus is no target, so the cursor goes back over it; behind the plus, a group that is
left open is blamed at the end of the line. -/
theorem rules_progress_or_back_out_before_open_group :
    let start : Cursor := ⟨['x', '+', '(', '2'], 0⟩
    let opening : Cursor := ⟨['x', '+', '(', '2'], 2⟩
    (start.pos ≤ start.data.length ∧ opening.pos ≤ opening.data.length) ∧
      (assignment .standard Grammar.groupLimit start = (.ok none, start) ∧
        Progresses start (assignment .standard Grammar.groupLimit start)) ∧
      group .standard 1 opening = complain (.missing ')') ⟨opening.data, 4⟩ ∧
        Progresses opening (group .standard 1 opening) := by
  intro start opening
  have hstart : start.pos ≤ start.data.length := by decide
  have hopening : opening.pos ≤ opening.data.length := by decide
  obtain ⟨⟨hassignment, _, _, _, hgroup⟩, _⟩ := rules_progress_or_back_out .standard 1
  exact ⟨⟨hstart, hopening⟩, ⟨rfl, hassignment.progresses start hstart⟩,
    rfl, hgroup.progresses opening hopening⟩

end Walk

end PlaneCalc

import PlaneCalc.Proofs.Grammar.Lookahead

/-!
# Faults stand at the first impossible character

Where a line fails, what comes before the place of the fault can still become a sentence, and with
the character at that place it no longer can. The first half is that a line is faithful to the
sentences. For the second, a sentence that went on with the character would be found with enough
levels, while the fault, which depends on nothing that follows, would still be reported.

The number of levels matters in one way only: with more of them a rule gives the same answer, unless
it gave up because they ran out (`AgreesUnlessDeep`).

What stands behind the place of a fault was not looked at, so another line with the same characters up
to there fails in the same way.
-/

namespace PlaneCalc

namespace Reading

variable {α β : Type}

/-! ## More levels change nothing but the limit -/

/-- Two readings agree, or the first gave up for depth. -/
def AgreesUnlessDeep (r r' : Reading α) : Prop :=
  r = r' ∨ ∃ rest, r = .failed .nestedTooDeeply rest

variable {r r' : Reading α}

theorem AgreesUnlessDeep.refl (r : Reading α) : AgreesUnlessDeep r r := .inl rfl

theorem AgreesUnlessDeep.trans {r'' : Reading α} (h : AgreesUnlessDeep r r')
    (h' : AgreesUnlessDeep r' r'') : AgreesUnlessDeep r r'' := by
  rcases h with rfl | hdeep
  · exact h'
  · exact .inr hdeep

theorem AgreesUnlessDeep.map (h : AgreesUnlessDeep r r') (f : α → β) :
    AgreesUnlessDeep (r.map f) (r'.map f) := by
  rcases h with rfl | ⟨rest, rfl⟩
  · exact .refl _
  · exact .inr ⟨rest, rfl⟩

theorem AgreesUnlessDeep.orElse {other other' : Unit → Reading α} (h : AgreesUnlessDeep r r')
    (ho : AgreesUnlessDeep (other ()) (other' ())) :
    AgreesUnlessDeep (r.orElse other) (r'.orElse other') := by
  rcases h with rfl | ⟨rest, rfl⟩
  · cases r with
    | absent => exact ho
    | found a rest => exact .refl _
    | failed cause rest => exact .refl _
  · exact .inr ⟨rest, rfl⟩

theorem AgreesUnlessDeep.orFail (h : AgreesUnlessDeep r r') (cause : SyntaxCause)
    (input : List Char) : AgreesUnlessDeep (r.orFail cause input) (r'.orFail cause input) := by
  rcases h with rfl | ⟨rest, rfl⟩
  · exact .refl _
  · exact .inr ⟨rest, rfl⟩

theorem AgreesUnlessDeep.andThen {next next' : α → List Char → Reading β}
    (h : AgreesUnlessDeep r r') (hnext : ∀ a rest, AgreesUnlessDeep (next a rest) (next' a rest)) :
    AgreesUnlessDeep (r.andThen next) (r'.andThen next') := by
  rcases h with rfl | ⟨rest, rfl⟩
  · cases r with
    | absent => exact .refl _
    | found a rest => exact hnext a rest
    | failed cause rest => exact .refl _
  · exact .inr ⟨rest, rfl⟩

end Reading

namespace Grammar

open Reading

variable {lang : Language}

section

variable {operators : List Operator} {operand operand' : List Char → Reading Expr}

theorem links_agree (h : ∀ input, AgreesUnlessDeep (operand input) (operand' input))
    (rounds : Nat) (left : Expr) (input : List Char) :
    AgreesUnlessDeep (links operators operand rounds left input)
      (links operators operand' rounds left input) := by
  induction rounds generalizing left input with
  | zero => exact .refl _
  | succ rounds ih =>
    cases input with
    | nil => exact .refl _
    | cons c input =>
      rw [links, links]
      cases Operator.ofSymbol? operators c with
      | none => exact .refl _
      | some op => exact ((h input).orFail (.operandMissing op) input).andThen fun right => ih _

theorem chain_agree (h : ∀ input, AgreesUnlessDeep (operand input) (operand' input))
    (input : List Char) :
    AgreesUnlessDeep (chain operators operand input) (chain operators operand' input) :=
  (h input).andThen fun first rest => links_agree h rest.length first rest

end

theorem sumWith_agree (lang : Language) {inner inner' : List Char → Reading Expr}
    (h : ∀ input, AgreesUnlessDeep (inner input) (inner' input)) (input : List Char) :
    AgreesUnlessDeep (sumWith lang inner input) (sumWith lang inner' input) := by
  have hterm : ∀ input, AgreesUnlessDeep (termWith lang inner input) (termWith lang inner' input) :=
    fun input => (AgreesUnlessDeep.refl (number input)).orElse
      ((AgreesUnlessDeep.refl (vector input)).orElse
        ((AgreesUnlessDeep.refl (reference lang input)).orElse (h input)))
  exact chain_agree (chain_agree hterm) input

/-- One more level. -/
theorem group_agree_succ (lang : Language) (levels : Nat) (input : List Char) :
    AgreesUnlessDeep (group lang levels input) (group lang (levels + 1) input) := by
  induction levels generalizing input with
  | zero =>
    -- with no level left, an opening parenthesis ends in the fault for depth
    by_cases hopen : ∃ rest, input = '(' :: rest
    · obtain ⟨rest, rfl⟩ := hopen
      exact .inr ⟨rest, rfl⟩
    · rw [group_of_ne_open lang 0 fun rest hrest => hopen ⟨rest, hrest⟩,
        group_of_ne_open lang 1 fun rest hrest => hopen ⟨rest, hrest⟩]
      exact .refl _
  | succ levels ih =>
    by_cases hopen : ∃ rest, input = '(' :: rest
    · obtain ⟨rest, rfl⟩ := hopen
      exact ((sumWith_agree lang ih rest).orFail .groupEmpty rest).andThen fun e rest' => .refl _
    · rw [group_of_ne_open lang _ fun rest hrest => hopen ⟨rest, hrest⟩,
        group_of_ne_open lang _ fun rest hrest => hopen ⟨rest, hrest⟩]
      exact .refl _

theorem group_agree (lang : Language) {n m : Nat} (h : n ≤ m) (input : List Char) :
    AgreesUnlessDeep (group lang n input) (group lang m input) := by
  induction h with
  | refl => exact .refl _
  | step _ ih => exact ih.trans (group_agree_succ lang _ input)

/-- More levels for its groups change how a line is read only where they had run out. -/
theorem line_agree (lang : Language) {n m : Nat} (h : n ≤ m) (input : List Char) :
    AgreesUnlessDeep (line lang n input) (line lang m input) := by
  have hsum : ∀ input, AgreesUnlessDeep (sum lang n input) (sum lang m input) :=
    sumWith_agree lang (group_agree lang h)
  have hassigned : ∀ target rest,
      AgreesUnlessDeep (assigned lang n target rest) (assigned lang m target rest) := by
    intro target rest
    cases rest with
    | nil => exact .refl _
    | cons c rest =>
      rw [assigned, assigned]
      split
      · exact ((hsum rest).orFail (.valueMissing lang.symbol) rest).andThen fun _ _ => .refl _
      · exact .refl _
  exact (((AgreesUnlessDeep.refl (name lang input)).andThen hassigned).map _).orElse
    ((((hsum input).orFail .statementMissing input).andThen fun _ _ => .refl _).map _)

/-! ## Before and at the place of a fault -/

/-- With the characters that led to a fault, what was read can no longer become a sentence. -/
theorem not_viable_of_failed {levels : Nat} {u k v : List Char} {cause : SyntaxCause}
    (h : line lang levels (u ++ (k ++ v)) = .failed cause (k ++ v))
    (hdeep : cause ≠ .nestedTooDeeply) (hk : cause.lookahead ≤ k.length) :
    ¬ Viable lang (u ++ k) := by
  rintro ⟨ext, s, hs⟩
  obtain ⟨u', hu', hsteady⟩ := line_failed_steady h
  obtain rfl := List.append_cancel_right hu'
  have hfail := hsteady k v ext rfl hk
  rw [← List.append_assoc] at hfail
  -- with enough levels for the sentence, the same fault is reported and the sentence is found
  have hfound := line_of_sentence hs (Nat.le_max_right levels (groupDepth (u ++ k ++ ext)))
  rcases line_agree lang (Nat.le_max_left levels (groupDepth (u ++ k ++ ext))) (u ++ k ++ ext) with
    hsame | ⟨rest, hgave⟩
  · rw [hfail, hfound] at hsame
    simp at hsame
  · rw [hfail] at hgave
    exact hdeep (Reading.failed.inj hgave).1

theorem atRest_position (u rest : List Char) (cause : SyntaxCause) :
    (SyntaxFault.atRest (u ++ rest) rest cause).position = u.length := by
  simp [SyntaxFault.atRest]

/-- A fault stands at the first character with which the line can no longer become a sentence, or at
its end: what comes before can, and the character that is expected there is a way to go on. Only a
superfluous zero could still have been right by itself; there the digit behind it is the first
impossible character. -/
theorem fault_at_first_impossible (lang : Language) (text : String) (f : SyntaxFault)
    (hparse : parse lang text = .error (.reading f)) (hdeep : f.cause ≠ .nestedTooDeeply) :
    Viable lang ((Text.compact text).take f.position) ∧
      (f.cause ≠ .leadingZero → f.position < (Text.compact text).length →
        ¬ Viable lang ((Text.compact text).take (f.position + 1))) ∧
      (f.cause = .leadingZero → (Text.compact text)[f.position]? = some '0' ∧
        (∃ d, (Text.compact text)[f.position + 1]? = some d ∧ d.isDigit = true) ∧
        ¬ Viable lang ((Text.compact text).take (f.position + 2))) ∧
      ∀ c, f.cause.expected = some c →
        Viable lang ((Text.compact text).take f.position ++ [c]) := by
  obtain ⟨cause, rest, hline, hf⟩ := parse_eq_error_iff.mp hparse
  obtain ⟨u, ext, s, hw, hs, hblames⟩ := (line_faithful groupLimit).failed hline
  obtain rfl := Fault.reading.inj hf
  rw [hw] at hline ⊢
  rw [atRest_position]
  refine ⟨?_, ?_, ?_, ?_⟩
  · rw [List.take_left]
    exact ⟨ext, s, hs⟩
  · intro hzero hinside
    cases rest with
    | nil => simp at hinside
    | cons c rest =>
      rw [List.take_length_add_append]
      exact not_viable_of_failed (k := [c]) hline hdeep (SyntaxCause.lookahead_eq_one hzero).le
  · intro hzero
    obtain ⟨d, more, rfl, hd⟩ := hblames.zero hzero
    refine ⟨by simp, ⟨d, by simp, hd⟩, ?_⟩
    rw [List.take_length_add_append]
    obtain rfl : cause = .leadingZero := hzero
    exact not_viable_of_failed (k := ['0', d]) hline hdeep (Nat.le_refl 2)
  · intro c hc
    rw [List.take_left]
    obtain ⟨more, rfl⟩ := hblames.expected c hc
    exact ⟨more, s, by rwa [List.append_assoc]⟩

/-- Only a closing parenthesis or an operator can follow a name in a group, and the equals sign that
does is blamed. -/
theorem fault_at_equals_in_group :
    parse .standard "(x = 1)" =
        .error (.reading ⟨"(x=1)".toList, 2, .missing ')'⟩) ∧
      Viable .standard "(x".toList ∧ ¬ Viable .standard "(x=".toList ∧
      Viable .standard "(x)".toList := by
  have hparse : parse .standard "(x = 1)" =
      .error (.reading ⟨"(x=1)".toList, 2, .missing ')'⟩) := by decide +kernel
  obtain ⟨hbefore, hat, _, hexpected⟩ :=
    fault_at_first_impossible .standard "(x = 1)" _ hparse (by decide)
  exact ⟨hparse, hbefore, hat (by decide) (by decide +kernel), hexpected ')' rfl⟩

/-! ## Behind the place of a fault -/

/-- The characters that lead to a fault within a line are all there. -/
theorem lookahead_le_length {levels : Nat} {w rest : List Char} {cause : SyntaxCause}
    (h : line lang levels w = .failed cause rest) (hrest : rest ≠ []) :
    cause.lookahead ≤ rest.length := by
  by_cases hzero : cause = .leadingZero
  · obtain ⟨_, _, _, _, _, hblames⟩ := (line_faithful levels).failed h
    obtain ⟨d, more, rfl, _⟩ := hblames.zero hzero
    rw [hzero, SyntaxCause.lookahead, List.length_cons, List.length_cons]
    omega
  · rw [SyntaxCause.lookahead_eq_one hzero]
    exact List.length_pos_iff.mpr hrest

/-- What a fault at some place finds there is told by the characters up to that place. -/
theorem location_found_congr {f g : SyntaxFault} {n : Nat} (hposition : g.position = f.position)
    (hline : g.line.take n = f.line.take n) (hn : f.position < n) :
    g.location.found = f.location.found := by
  have hchar : g.line[f.position]? = f.line[f.position]? := by
    rw [← List.getElem?_take_of_lt hn, hline, List.getElem?_take_of_lt hn]
  simp only [SyntaxFault.location, Location.ofIndex, String.toList_ofList, hposition, hchar]

/-- Nothing behind a fault matters. A line that has the same characters up to and including the place of
the fault, and the digit behind it where a superfluous zero is blamed, fails in the same way: with the
same category and wording, at the same place, with the same character found and the same one expected. -/
theorem fault_decided_up_to_its_place (lang : Language) (text text' : String) (f : SyntaxFault)
    (hparse : parse lang text = .error (.reading f))
    (hinside : f.position < (Text.compact text).length)
    (hagree : (Text.compact text').take (f.position + f.cause.lookahead) =
      (Text.compact text).take (f.position + f.cause.lookahead)) :
    ∃ g, parse lang text' = .error (.reading g) ∧ g.cause = f.cause ∧
      g.diagnostic.category = f.diagnostic.category ∧ g.diagnostic.text = f.diagnostic.text ∧
      g.position = f.position ∧ g.location.found = f.location.found ∧
      g.location.expected = f.location.expected := by
  obtain ⟨cause, rest, hline, hf⟩ := parse_eq_error_iff.mp hparse
  obtain rfl := Fault.reading.inj hf
  obtain ⟨u, hw, hsteady⟩ := line_failed_steady hline
  have hplace : (SyntaxFault.atRest (Text.compact text) rest cause).position = u.length := by
    rw [hw, atRest_position]
  have hcause : (SyntaxFault.atRest (Text.compact text) rest cause).cause = cause := rfl
  rw [hplace, hcause] at hagree
  rw [hplace, hw, List.length_append] at hinside
  have hrest : rest ≠ [] := List.ne_nil_of_length_pos (by omega)
  have hlooked := lookahead_le_length hline hrest
  -- the other line: what was read, the characters that were looked at, and anything behind them
  obtain ⟨v', hw'⟩ : ∃ v', Text.compact text' = u ++ (rest.take cause.lookahead ++ v') := by
    rw [hw, List.take_length_add_append] at hagree
    refine ⟨(Text.compact text').drop (u.length + cause.lookahead), ?_⟩
    rw [← List.append_assoc, ← hagree, List.take_append_drop]
  have hfail : line lang groupLimit (Text.compact text') =
      .failed cause (rest.take cause.lookahead ++ v') := by
    rw [hw']
    exact hsteady _ (rest.drop cause.lookahead) v' (List.take_append_drop _ _).symm
      (List.length_take_of_le hlooked).ge
  have hplace' : (SyntaxFault.atRest (Text.compact text') (rest.take cause.lookahead ++ v')
      cause).position = u.length := by
    rw [hw', atRest_position]
  refine ⟨_, parse_eq_error_iff.mpr ⟨cause, _, hfail, rfl⟩, rfl, rfl, rfl, hplace'.trans hplace.symm,
    ?_, rfl⟩
  refine location_found_congr (hplace'.trans hplace.symm) hagree ?_
  have hpos := cause.lookahead_pos
  omega

/-- A superfluous zero in a vector is blamed whatever follows the digit behind it. -/
theorem fault_decided_at_superfluous_zero :
    parse .standard "[1, 007]" = .error (.reading ⟨"[1,007]".toList, 3, .leadingZero⟩) ∧
      ∃ g, parse .standard "[1,0 0)) = x" = .error (.reading g) ∧ g.cause = .leadingZero ∧
        g.position = 3 ∧ g.location.found = some "0" := by
  have hparse : parse .standard "[1, 007]" =
      .error (.reading ⟨"[1,007]".toList, 3, .leadingZero⟩) := by decide +kernel
  obtain ⟨g, hg, hcause, _, _, hposition, hfound, _⟩ := fault_decided_up_to_its_place .standard
    "[1, 007]" "[1,0 0)) = x" _ hparse (by decide +kernel) (by decide +kernel)
  exact ⟨hparse, g, hg, hcause, hposition, hfound⟩

end Grammar

end PlaneCalc

import PlaneCalc.Proofs.Grammar.Recognition

/-!
# How far rules look ahead

A rule looks at no more than one character beyond what it consumes; only a superfluous zero is blamed
after a look at the digit behind it. So a rule that has ended somewhere ends there in the same way
whatever follows the characters it looked at, and a rule that found nothing to begin with was put off
by the first character alone. `Steady` states this for one rule, and the combinators keep it.
-/

namespace PlaneCalc

/-- How many characters from its place on lead to a fault. -/
def SyntaxCause.lookahead : SyntaxCause → Nat
  | leadingZero => 2
  | _ => 1

theorem SyntaxCause.lookahead_pos (cause : SyntaxCause) : 1 ≤ cause.lookahead := by
  cases cause <;> simp [lookahead]

theorem SyntaxCause.lookahead_eq_one {cause : SyntaxCause} (h : cause ≠ .leadingZero) :
    cause.lookahead = 1 := by
  cases cause <;> first | rfl | exact absurd rfl h

namespace Reading

variable {α β : Type}

/-- The two ways to end before a rest, each with the number of characters of the rest that matter. -/
inductive Ends : (List Char → Reading α) → Nat → Prop where
  | found (a : α) : Ends (.found a) 1
  | failed (cause : SyntaxCause) : Ends (.failed cause) cause.lookahead

theorem Ends.pos {out : List Char → Reading α} {n : Nat} (h : Ends out n) : 1 ≤ n := by
  cases h with
  | found a => exact Nat.le_refl 1
  | failed cause => exact cause.lookahead_pos

theorem Ends.ne_nil {out : List Char → Reading α} {n : Nat} (h : Ends out n) {k : List Char}
    (hk : n ≤ k.length) : k ≠ [] := by
  have hpos := h.pos
  exact List.ne_nil_of_length_pos (by omega)

/-- How a rule ends is decided by what it consumes and the characters it looks at. -/
structure Steady (rule : List Char → Reading α) : Prop where
  absent : ∀ {k v : List Char}, rule (k ++ v) = .absent → k ≠ [] → ∀ v', rule (k ++ v') = .absent
  ends : ∀ {out : List Char → Reading α} {n : Nat} {input rest : List Char}, Ends out n →
    rule input = out rest → ∃ u, input = u ++ rest ∧
      ∀ k v v', rest = k ++ v → n ≤ k.length → rule (u ++ (k ++ v')) = out (k ++ v')

/-! ## Combinators -/

/-- Finding something without looking at the input. -/
theorem found_steady (a : α) : Steady (fun input => .found a input) where
  absent h := by simp at h
  ends {out n input rest} hout h := by
    cases hout with
    | found b =>
      rw [Reading.found.injEq] at h
      obtain ⟨rfl, rfl⟩ := h
      exact ⟨[], rfl, fun k v v' _ _ => rfl⟩
    | failed cause => simp at h

/-- Failing without looking at the input. -/
theorem failed_steady (cause : SyntaxCause) :
    Steady (fun input => (.failed cause input : Reading α)) where
  absent h := by simp at h
  ends {out n input rest} hout h := by
    cases hout with
    | found b => simp at h
    | failed cause' =>
      rw [Reading.failed.injEq] at h
      obtain ⟨rfl, rfl⟩ := h
      exact ⟨[], rfl, fun k v v' _ _ => rfl⟩

theorem Steady.map {rule : List Char → Reading α} (h : Steady rule) (f : α → β) :
    Steady (fun input => (rule input).map f) where
  absent {k v} habsent hk v' := by
    rw [map_eq_absent] at habsent ⊢
    exact h.absent habsent hk v'
  ends {out n input rest} hout hread := by
    cases hout with
    | found b =>
      obtain ⟨a, ha, rfl⟩ := map_eq_found.mp hread
      obtain ⟨u, hu, hsteady⟩ := h.ends (.found a) ha
      refine ⟨u, hu, fun k v v' hrest hk => ?_⟩
      rw [hsteady k v v' hrest hk]
      rfl
    | failed cause =>
      obtain ⟨u, hu, hsteady⟩ := h.ends (.failed cause) (map_eq_failed.mp hread)
      refine ⟨u, hu, fun k v v' hrest hk => ?_⟩
      rw [hsteady k v v' hrest hk]
      rfl

theorem Steady.orElse {rule other : List Char → Reading α} (h : Steady rule)
    (ho : Steady other) : Steady (fun input => (rule input).orElse fun _ => other input) where
  absent {k v} habsent hk v' := by
    rw [orElse_eq_absent] at habsent ⊢
    exact ⟨h.absent habsent.1 hk v', ho.absent habsent.2 hk v'⟩
  ends {out n input rest} hout hread := by
    have hcases : rule input = out rest ∨ rule input = .absent ∧ other input = out rest := by
      cases hout with
      | found a => exact orElse_eq_found.mp hread
      | failed cause => exact orElse_eq_failed.mp hread
    rcases hcases with hr | ⟨habsent, hr⟩
    · obtain ⟨u, hu, hsteady⟩ := h.ends hout hr
      refine ⟨u, hu, fun k v v' hrest hk => ?_⟩
      rw [hsteady k v v' hrest hk]
      cases hout <;> rfl
    · obtain ⟨u, rfl, hsteady⟩ := ho.ends hout hr
      refine ⟨u, rfl, fun k v v' hrest hk => ?_⟩
      -- the first rule was put off by a character that is still there
      have hne : u ++ k ≠ [] := List.append_ne_nil_of_right_ne_nil u (hout.ne_nil hk)
      rw [hrest, ← List.append_assoc] at habsent
      have hstill := h.absent habsent hne v'
      rw [List.append_assoc] at hstill
      rw [hstill, ← hsteady k v v' hrest hk]
      rfl

theorem Steady.orFail {rule : List Char → Reading α} (h : Steady rule) (cause : SyntaxCause) :
    Steady (fun input => (rule input).orFail cause input) where
  absent habsent := absurd habsent orFail_ne_absent
  ends {out n input rest} hout hread := by
    cases hout with
    | found a =>
      obtain ⟨u, hu, hsteady⟩ := h.ends (.found a) (orFail_eq_found.mp hread)
      exact ⟨u, hu, fun k v v' hrest hk => orFail_eq_found.mpr (hsteady k v v' hrest hk)⟩
    | failed cause' =>
      rcases orFail_eq_failed.mp hread with hr | ⟨habsent, rfl, rfl⟩
      · obtain ⟨u, hu, hsteady⟩ := h.ends (.failed cause') hr
        exact ⟨u, hu, fun k v v' hrest hk =>
          orFail_eq_failed.mpr (.inl (hsteady k v v' hrest hk))⟩
      · refine ⟨[], rfl, fun k v v' hrest hk => orFail_eq_failed.mpr (.inr ⟨?_, rfl, rfl⟩)⟩
        exact h.absent (hrest ▸ habsent) ((Ends.failed (α := α) cause).ne_nil hk) v'

/-- A rule that finds something or fails, whatever the input. -/
def Answers (rule : List Char → Reading α) : Prop := ∀ input, rule input ≠ .absent

theorem orFail_answers (rule : List Char → Reading α) (cause : SyntaxCause) :
    Answers (fun input => (rule input).orFail cause input) :=
  fun _ => orFail_ne_absent

theorem Answers.andThen {rule : List Char → Reading α} {next : α → List Char → Reading β}
    (h : Answers rule) (hnext : ∀ a, Answers (next a)) :
    Answers (fun input => (rule input).andThen next) := by
  intro input habsent
  rcases andThen_eq_absent.mp habsent with hr | ⟨a, mid, _, hn⟩
  · exact h input hr
  · exact hnext a mid hn

/-- What was found is found again if it is followed by a character that followed it before. -/
theorem Steady.found {rule : List Char → Reading α} (h : Steady rule) {input mid : List Char}
    {a : α} (hr : rule input = .found a mid) :
    ∃ u, input = u ++ mid ∧ ∀ u' k v v', mid = u' ++ (k ++ v) → k ≠ [] →
      rule (u ++ (u' ++ (k ++ v'))) = .found a (u' ++ (k ++ v')) := by
  obtain ⟨u, hu, hsteady⟩ := h.ends (.found a) hr
  refine ⟨u, hu, fun u' k v v' hmid hk => ?_⟩
  have hlen : 1 ≤ (u' ++ k).length :=
    List.length_pos_iff.mpr (List.append_ne_nil_of_right_ne_nil u' hk)
  rw [← List.append_assoc u'] at hmid
  have hread := hsteady (u' ++ k) v v' hmid hlen
  rwa [List.append_assoc u'] at hread

/-- Two rules in a row, the second of which always has an answer. -/
theorem Steady.andThen {rule : List Char → Reading α} {next : α → List Char → Reading β}
    (h : Steady rule) (hnext : ∀ a, Steady (next a)) (hanswer : ∀ a, Answers (next a)) :
    Steady (fun input => (rule input).andThen next) where
  absent {k v} habsent hk v' := by
    rcases andThen_eq_absent.mp habsent with hr | ⟨a, mid, _, hn⟩
    · rw [h.absent hr hk v']
      rfl
    · exact absurd hn (hanswer a mid)
  ends {out n input rest} hout hread := by
    have hcases : (∃ cause, rule input = .failed cause rest ∧ out = .failed cause ∧
        n = cause.lookahead) ∨ ∃ a mid, rule input = .found a mid ∧ next a mid = out rest := by
      cases hout with
      | found b => exact .inr (andThen_eq_found.mp hread)
      | failed cause =>
        rcases andThen_eq_failed.mp hread with hr | hr
        · exact .inl ⟨cause, hr, rfl, rfl⟩
        · exact .inr hr
    rcases hcases with ⟨cause, hr, rfl, rfl⟩ | ⟨a, mid, hr, hn⟩
    · obtain ⟨u, hu, hsteady⟩ := h.ends (.failed cause) hr
      refine ⟨u, hu, fun k v v' hrest hk => ?_⟩
      rw [hsteady k v v' hrest hk]
      rfl
    · obtain ⟨u, rfl, hfirst⟩ := h.found hr
      obtain ⟨u', rfl, hsecond⟩ := (hnext a).ends hout hn
      refine ⟨u ++ u', by rw [List.append_assoc], fun k v v' hrest hk => ?_⟩
      rw [List.append_assoc, hfirst u' k v v' (by rw [hrest]) (hout.ne_nil hk)]
      exact hsecond k v v' hrest hk

/-- A rule that one character commits to something that always has an answer. -/
theorem Steady.afterHead {rule body : List Char → Reading α} {c : Char} (h : Steady body)
    (hanswer : Answers body) (hopen : ∀ rest, rule (c :: rest) = body rest)
    (hother : ∀ input, (∀ rest, input ≠ c :: rest) → rule input = .absent) : Steady rule where
  absent {k v} habsent hk v' := by
    obtain ⟨d, k, rfl⟩ := List.exists_cons_of_ne_nil hk
    refine hother _ ?_
    rintro rest hcons
    obtain ⟨rfl, -⟩ := List.cons.inj hcons
    exact hanswer _ (hopen _ ▸ habsent)
  ends {out n input rest} hout hread := by
    by_cases hc : ∃ tail, input = c :: tail
    · obtain ⟨tail, rfl⟩ := hc
      obtain ⟨u, rfl, hsteady⟩ := h.ends hout (hopen tail ▸ hread)
      refine ⟨c :: u, rfl, fun k v v' hrest hk => ?_⟩
      rw [List.cons_append, hopen]
      exact hsteady k v v' hrest hk
    · have habsent := hother input fun rest hrest => hc ⟨rest, hrest⟩
      rw [habsent] at hread
      cases hout <;> simp at hread

end Reading

namespace Grammar

open Reading

variable {lang : Language}

/-! ## Atoms -/

theorem expect_answers (c : Char) : Answers (expect c) := fun _ => expect_ne_absent

theorem expect_steady (c : Char) : Steady (expect c) where
  absent habsent := absurd habsent expect_ne_absent
  ends {out n input rest} hout hread := by
    cases hout with
    | found a =>
      obtain rfl := expect_eq_found.mp hread
      exact ⟨[c], rfl, fun k v v' _ _ => expect_eq_found.mpr rfl⟩
    | failed cause =>
      obtain ⟨rfl, rfl, hother⟩ := expect_eq_failed.mp hread
      refine ⟨[], rfl, fun k v v' hrest hk => expect_eq_failed.mpr ⟨rfl, rfl, ?_⟩⟩
      obtain ⟨d, k, rfl⟩ := List.exists_cons_of_ne_nil ((Ends.failed (α := Unit) _).ne_nil hk)
      intro more hmore
      obtain ⟨rfl, -⟩ := List.cons.inj hmore
      exact hother _ hrest

/-- The character that closes what was found. -/
theorem closing_answers (c : Char) (e : Expr) :
    Answers (fun input => (expect c input).andThen fun _ rest => .found e rest) :=
  (expect_answers c).andThen fun _ _ => by simp

theorem closing_steady (c : Char) (e : Expr) :
    Steady (fun input => (expect c input).andThen fun _ rest => .found e rest) :=
  (expect_steady c).andThen (fun _ => found_steady e) fun _ _ => by simp

theorem numeral_steady : Steady Numeral.read where
  absent habsent hk v' := by
    rw [Numeral.read_eq_absent] at habsent ⊢
    exact habsent.of_append hk v'
  ends {out n input rest} hout hread := by
    have hrun := Numeral.run_read input
    rw [hread] at hrun
    cases hout with
    | found a =>
      cases hrun with
      | found hn h =>
        refine ⟨_, rfl, fun k v v' hrest hk => Numeral.read_of_run (.found hn ?_)⟩
        exact (hrest ▸ h).of_append (List.ne_nil_of_length_pos hk) v'
    | failed cause =>
      cases hrun with
      | signWithoutDigit h =>
        refine ⟨['-'], rfl, fun k v v' hrest hk => Numeral.read_of_run (.signWithoutDigit ?_)⟩
        exact (hrest ▸ h).of_append (List.ne_nil_of_length_pos hk) v'
      | leadingZero negative hd =>
        refine ⟨Numeral.sign negative, rfl, fun k v v' hrest hk => ?_⟩
        -- both the zero and the digit behind it are among the characters that stay
        rcases k with _ | ⟨c, _ | ⟨d, k⟩⟩
        · simp [SyntaxCause.lookahead] at hk
        · simp [SyntaxCause.lookahead] at hk
        · obtain ⟨rfl, htail⟩ := List.cons.inj hrest
          obtain ⟨rfl, -⟩ := List.cons.inj htail
          exact Numeral.read_of_run (.leadingZero negative hd)
      | @pointWithoutDigit negative whole _ hw h =>
        refine ⟨Numeral.sign negative ++ whole ++ ['.'], by simp, fun k v v' hrest hk => ?_⟩
        rw [List.append_assoc _ ['.'], List.singleton_append]
        refine Numeral.read_of_run (.pointWithoutDigit negative hw ?_)
        exact (hrest ▸ h).of_append (List.ne_nil_of_length_pos hk) v'
      | secondPoint hn hf =>
        refine ⟨_, rfl, fun k v v' hrest hk => ?_⟩
        obtain ⟨c, k, rfl⟩ := List.exists_cons_of_ne_nil (List.ne_nil_of_length_pos hk)
        obtain ⟨rfl, -⟩ := List.cons.inj hrest
        exact Numeral.read_of_run (.secondPoint hn hf)

theorem name_steady : Steady (name lang) where
  absent habsent hk v' := by
    rw [name_eq_absent] at habsent ⊢
    exact habsent.of_append hk v'
  ends {out n input rest} hout hread := by
    have hrun := nameRun_name lang input
    rw [hread] at hrun
    have hends : ∀ {k v v' : List Char} {b : Bool}, k ≠ [] → lang.endsName (k ++ v) = b →
        lang.endsName (k ++ v') = b := by
      intro k v v' b hk h
      obtain ⟨c, k, rfl⟩ := List.exists_cons_of_ne_nil hk
      exact h
    cases hout with
    | found a =>
      cases hrun with
      | found hn he =>
        refine ⟨_, rfl, fun k v v' hrest hk => name_of_nameRun (.found hn ?_)⟩
        exact hends (List.ne_nil_of_length_pos hk) (hrest ▸ he)
    | failed cause =>
      cases hrun with
      | runsOn hn h he =>
        refine ⟨_, rfl, fun k v v' hrest hk => name_of_nameRun (.runsOn hn ?_ ?_)⟩
        · exact (hrest ▸ h).of_append (List.ne_nil_of_length_pos hk) v'
        · exact hends (List.ne_nil_of_length_pos hk) (hrest ▸ he)

theorem component_steady : Steady component :=
  (numeral_steady.map Numeral.toDouble).orFail .componentMissing

theorem component_answers : Answers component := fun _ => orFail_ne_absent

theorem components_answers : Answers components :=
  component_answers.andThen fun _ => (expect_answers ',').andThen fun _ =>
    component_answers.andThen fun _ => closing_answers ']' _

theorem components_steady : Steady components := by
  refine component_steady.andThen (fun x => ?_) (fun x => ?_)
  · refine (expect_steady ',').andThen (fun _ => ?_) (fun _ => ?_)
    · exact component_steady.andThen (fun y => closing_steady ']' _) fun y => closing_answers ']' _
    · exact component_answers.andThen fun y => closing_answers ']' _
  · exact (expect_answers ',').andThen fun _ => component_answers.andThen fun y =>
      closing_answers ']' _

theorem vector_steady : Steady vector := by
  refine components_steady.afterHead (c := '[') components_answers (fun rest => rfl) ?_
  intro input hother
  rw [vector]
  exact fun rest hrest => hother rest hrest

/-! ## Chains -/

section

variable {operators : List Operator} {operand : List Char → Reading Expr}

theorem links_answers (rounds : Nat) (left : Expr) :
    Answers (links operators operand rounds left) := by
  induction rounds generalizing left with
  | zero => simp [Answers, links]
  | succ rounds ih =>
    intro input
    cases input with
    | nil => simp [links]
    | cons c input =>
      rw [links]
      split
      · simp
      · exact (orFail_answers operand _).andThen (fun right => ih _) input

theorem loop_answers (operators : List Operator) (operand : List Char → Reading Expr)
    (left : Expr) : Answers (loop operators operand left) :=
  fun _ => links_answers _ left _

/-- A fixed number of rounds is steady if the operand is. -/
theorem links_steady (h : Steady operand) (rounds : Nat) (left : Expr) :
    Steady (links operators operand rounds left) := by
  induction rounds generalizing left with
  | zero => exact found_steady left
  | succ rounds ih =>
    refine ⟨fun habsent => absurd habsent (links_answers _ left _), ?_⟩
    intro out n input rest hout hread
    -- the first character alone decides between stopping here and one more round
    by_cases hstop : Stops (fun c => (Operator.ofSymbol? operators c).isSome) input
    · rw [links_of_stops _ left hstop] at hread
      obtain ⟨u, rfl, hsteady⟩ := (found_steady left).ends hout hread
      refine ⟨u, rfl, fun k v v' hrest hk => ?_⟩
      rw [hrest, ← List.append_assoc] at hstop
      have hne := List.append_ne_nil_of_right_ne_nil u (hout.ne_nil hk)
      rw [← List.append_assoc, links_of_stops _ left (hstop.of_append hne v'), List.append_assoc]
      exact hsteady k v v' hrest hk
    · have hne : input ≠ [] := by
        rintro rfl
        exact hstop stops_nil
      obtain ⟨c, input, rfl⟩ := List.exists_cons_of_ne_nil hne
      rw [stops_cons, Bool.not_eq_false, Option.isSome_iff_exists] at hstop
      obtain ⟨op, hop⟩ := hstop
      rw [links, hop] at hread
      have hround := (h.orFail (.operandMissing op)).andThen
        (fun right => ih (.binary op left right)) (fun right => links_answers rounds _)
      obtain ⟨u, rfl, hsteady⟩ := hround.ends hout hread
      refine ⟨c :: u, rfl, fun k v v' hrest hk => ?_⟩
      rw [List.cons_append, links, hop]
      exact hsteady k v v' hrest hk

/-- A loop is steady if its operand is. -/
theorem loop_steady (operators : List Operator) (hshrink : Shrinks operand) (h : Steady operand)
    (left : Expr) : Steady (loop operators operand left) where
  absent habsent := absurd habsent (loop_answers operators operand left _)
  ends {out n input rest} hout hread := by
    obtain ⟨u, rfl, _⟩ := (links_steady h _ left).ends hout hread
    refine ⟨u, rfl, fun k v v' hrest hk => ?_⟩
    -- enough rounds for either input
    have hrounds : ∀ tail : List Char, tail = rest ∨ tail = k ++ v' →
        loop operators operand left (u ++ tail) =
          links operators operand ((u ++ rest).length + (u ++ (k ++ v')).length) left
            (u ++ tail) := by
      rintro tail (rfl | rfl)
      · exact links_rounds hshrink _ _ _ _ (Nat.le_refl _) (by omega)
      · exact links_rounds hshrink _ _ _ _ (Nat.le_refl _) (by omega)
    rw [hrounds rest (.inl rfl)] at hread
    obtain ⟨u', hu, hsteady⟩ := (links_steady h _ left).ends hout hread
    obtain rfl := List.append_cancel_right hu
    rw [hrounds _ (.inr rfl)]
    exact hsteady k v v' hrest hk

theorem chain_steady (hshrink : Shrinks operand) (h : Steady operand) :
    Steady (chain operators operand) :=
  h.andThen (loop_steady operators hshrink h) (loop_answers operators operand)

end

/-! ## Terms, products, sums and groups -/

section

variable {inner : List Char → Reading Expr}

theorem termWith_steady (h : Steady inner) : Steady (termWith lang inner) :=
  (numeral_steady.map _).orElse (vector_steady.orElse ((name_steady.map _).orElse h))

theorem productWith_steady (lang : Language) (hinner : Faithful (Derives .term) inner)
    (h : Steady inner) : Steady (productWith lang inner) :=
  chain_steady (shrinks_of_faithful (termWith_faithful hinner)) (termWith_steady h)

theorem sumWith_steady (lang : Language) (hinner : Faithful (Derives .term) inner)
    (h : Steady inner) : Steady (sumWith lang inner) :=
  chain_steady (shrinks_of_faithful (productWith_faithful hinner))
    (productWith_steady lang hinner h)

end

theorem group_steady (lang : Language) (levels : Nat) : Steady (group lang levels) := by
  induction levels with
  | zero =>
    exact (failed_steady .nestedTooDeeply).afterHead (fun _ => by simp) (fun rest => rfl)
      fun _ => group_of_ne_open lang 0
  | succ levels ih =>
    have hsum := sumWith_steady lang (group_faithful levels) ih
    have hbody := (hsum.orFail .groupEmpty).andThen (fun e => closing_steady ')' e)
      (fun e => closing_answers ')' e)
    refine hbody.afterHead ?_ (fun rest => rfl) fun _ => group_of_ne_open lang (levels + 1)
    exact (orFail_answers _ .groupEmpty).andThen fun e => closing_answers ')' e

theorem term_steady (lang : Language) (levels : Nat) : Steady (term lang levels) :=
  termWith_steady (group_steady lang levels)

theorem product_steady (lang : Language) (levels : Nat) : Steady (product lang levels) :=
  productWith_steady lang (group_faithful levels) (group_steady lang levels)

theorem sum_steady (lang : Language) (levels : Nat) : Steady (sum lang levels) :=
  sumWith_steady lang (group_faithful levels) (group_steady lang levels)

/-! ## Lines -/

theorem atEnd_answers {α : Type} (cause : SyntaxCause) (a : α) : Answers (atEnd cause a) := by
  intro input
  cases input <;> simp [atEnd]

theorem atEnd_steady {α : Type} (cause : SyntaxCause) (a : α) : Steady (atEnd cause a) where
  absent habsent := absurd habsent (atEnd_answers cause a _)
  ends {out n input rest} hout hread := by
    cases input with
    | nil =>
      cases hout with
      | found b =>
        obtain ⟨rfl, rfl⟩ := Reading.found.inj hread
        refine ⟨[], rfl, fun k v v' hrest hk => ?_⟩
        rw [(List.append_eq_nil_iff.mp hrest.symm).1] at hk
        simp at hk
      | failed cause' => simp [atEnd] at hread
    | cons c input =>
      obtain ⟨u, hu, hsteady⟩ := (failed_steady cause).ends hout hread
      refine ⟨u, hu, fun k v v' hrest hk => ?_⟩
      rw [← hsteady k v v' hrest hk]
      obtain ⟨d, tail, hcons⟩ := List.exists_cons_of_ne_nil
        (List.append_ne_nil_of_right_ne_nil u (hout.ne_nil hk))
      rw [← List.append_assoc, hcons]
      rfl

theorem assigned_steady (levels : Nat) (target : String) :
    Steady (assigned lang levels target) := by
  have hvalue := ((sum_steady lang levels).orFail (.valueMissing lang.symbol)).andThen
    (fun value => atEnd_steady .trailingAfterAssignment (target, value))
    (fun value => atEnd_answers .trailingAfterAssignment (target, value))
  refine hvalue.afterHead (c := lang.symbol) ?_ (fun rest => if_pos rfl) fun input hother => ?_
  · exact (orFail_answers _ _).andThen fun value => atEnd_answers _ _
  · cases input with
    | nil => rfl
    | cons c rest =>
      refine if_neg ?_
      rintro rfl
      exact hother rest rfl

theorem expression_steady (levels : Nat) :
    Steady (fun input => ((sum lang levels input).orFail .statementMissing input).andThen
      (atEnd .trailingInput)) :=
  ((sum_steady lang levels).orFail .statementMissing).andThen (atEnd_steady .trailingInput)
    (atEnd_answers .trailingInput)

/-- A sum that begins with a name ends behind the name. -/
theorem suffix_of_name_found {levels : Nat} {input mid rest : List Char} {target : String}
    {cause : SyntaxCause} (hname : name lang input = .found target mid)
    (h : ((sum lang levels input).orFail .statementMissing input).andThen (atEnd .trailingInput) =
      .failed cause rest) : ∃ u, mid = u ++ rest := by
  have hterm : Shrinks (term lang levels) := shrinks_of_faithful (term_faithful levels)
  have hproduct : Shrinks (product lang levels) := shrinks_of_faithful (product_faithful levels)
  have hbehind := (loop_steady Operator.multiplicative hterm (term_steady lang levels)
    (.reference target)).andThen (loop_steady Operator.additive hproduct
      (product_steady lang levels)) (loop_answers _ _)
  have hanswers := (loop_answers Operator.multiplicative (term lang levels)
    (.reference target)).andThen (loop_answers Operator.additive (product lang levels))
  -- the sum goes on behind the name, so wherever it ends is behind it too
  rw [sum_of_name_found levels hname] at h
  rcases andThen_eq_failed.mp h with hsum | ⟨e, mid', hsum, hend⟩
  · rcases orFail_eq_failed.mp hsum with hfail | ⟨habsent, _⟩
    · obtain ⟨u, hu, _⟩ := hbehind.ends (.failed cause) hfail
      exact ⟨u, hu⟩
    · exact absurd habsent (hanswers mid)
  · obtain ⟨u, rfl, _⟩ := hbehind.ends (.found e) (orFail_eq_found.mp hsum)
    obtain ⟨u', rfl, _⟩ := (atEnd_steady .trailingInput e).ends (.failed cause) hend
    exact ⟨u ++ u', by rw [List.append_assoc]⟩

/-- A line that is no assignment remains none, for the same reason. -/
theorem not_assigned_steady {levels : Nat} {u k v : List Char} {cause : SyntaxCause}
    (habsent : (name lang (u ++ (k ++ v))).andThen (assigned lang levels) = .absent)
    (hexpr : ((sum lang levels (u ++ (k ++ v))).orFail .statementMissing (u ++ (k ++ v))).andThen
      (atEnd .trailingInput) = .failed cause (k ++ v)) (hk : k ≠ []) (v' : List Char) :
    (name lang (u ++ (k ++ v'))).andThen (assigned lang levels) = .absent := by
  rcases andThen_eq_absent.mp habsent with hname | ⟨target, mid, hname, hnone⟩
  · rw [← List.append_assoc] at hname ⊢
    rw [name_steady.absent hname (List.append_ne_nil_of_right_ne_nil u hk) v']
    rfl
  · -- the name and the character behind it lie before or at the place of the fault
    obtain ⟨u', rfl⟩ := suffix_of_name_found hname hexpr
    obtain ⟨u₀, hu₀, hfirst⟩ := name_steady.found hname
    rw [← List.append_assoc u₀] at hu₀
    obtain rfl := List.append_cancel_right hu₀
    rw [List.append_assoc, hfirst u' k v v' rfl hk]
    show assigned lang levels target _ = .absent
    rw [← List.append_assoc] at hnone ⊢
    exact (assigned_steady levels target).absent hnone
      (List.append_ne_nil_of_right_ne_nil u' hk) v'

/-- How a line fails is decided by what was read and the characters that were looked at. -/
theorem line_failed_steady {levels : Nat} {input rest : List Char} {cause : SyntaxCause}
    (h : line lang levels input = .failed cause rest) :
    ∃ u, input = u ++ rest ∧ ∀ k v v', rest = k ++ v → cause.lookahead ≤ k.length →
      line lang levels (u ++ (k ++ v')) = .failed cause (k ++ v') := by
  rcases orElse_eq_failed.mp h with hassign | ⟨habsent, hexpr⟩
  · rcases andThen_eq_failed.mp (map_eq_failed.mp hassign) with hname | ⟨target, mid, hname, hvalue⟩
    · obtain ⟨u, hu, hsteady⟩ := name_steady.ends (.failed cause) hname
      refine ⟨u, hu, fun k v v' hrest hk => ?_⟩
      rw [line, hsteady k v v' hrest hk]
      rfl
    · obtain ⟨u, rfl, hfirst⟩ := name_steady.found hname
      obtain ⟨u', rfl, hsecond⟩ := (assigned_steady levels target).ends (.failed cause) hvalue
      refine ⟨u ++ u', by rw [List.append_assoc], fun k v v' hrest hk => ?_⟩
      have hne : k ≠ [] := (Ends.failed (α := Expr) cause).ne_nil hk
      rw [line, List.append_assoc, hfirst u' k v v' (by rw [hrest]) hne]
      show (Reading.map _ (assigned lang levels target (u' ++ (k ++ v')))).orElse _ = _
      rw [hsecond k v v' hrest hk]
      rfl
  · rw [map_eq_absent] at habsent
    rw [map_eq_failed] at hexpr
    obtain ⟨u, rfl, hsteady⟩ := (expression_steady levels).ends (.failed cause) hexpr
    refine ⟨u, rfl, fun k v v' hrest hk => ?_⟩
    have hne : k ≠ [] := (Ends.failed (α := Expr) cause).ne_nil hk
    subst hrest
    rw [line, not_assigned_steady habsent hexpr hne v']
    show Reading.map _ _ = _
    rw [hsteady k v v' rfl hk]
    rfl

end Grammar

end PlaneCalc

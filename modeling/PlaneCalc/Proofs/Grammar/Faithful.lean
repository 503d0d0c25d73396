import PlaneCalc.Proofs.Grammar.Atom

/-!
# Rules are faithful to the grammar

A rule is faithful to a class of texts if whatever it finds is a text of the class, taken off the
front of the input, and if wherever it fails, what it has consumed can still become such a text. The
second half also covers what the cause of a fault says: the expected character is a way to go on, and
a superfluous zero stands where it is blamed.

The combinators keep this property, so each rule inherits it from its parts; only the groups need an
induction, over the levels that are left.
-/

namespace PlaneCalc

namespace Reading

variable {α β : Type}

/-- What a cause says about a place: the expected character begins what could have followed, and a
superfluous zero is found there with a digit behind it. -/
structure Blames (cause : SyntaxCause) (rest ext : List Char) : Prop where
  expected : ∀ c, cause.expected = some c → ∃ more, ext = c :: more
  zero : cause = .leadingZero → ∃ d more, rest = '0' :: d :: more ∧ d.isDigit = true

theorem Blames.append {cause : SyntaxCause} {rest ext : List Char} (h : Blames cause rest ext)
    (v : List Char) : Blames cause rest (ext ++ v) := by
  refine ⟨fun c hc => ?_, h.zero⟩
  obtain ⟨more, rfl⟩ := h.expected c hc
  exact ⟨more ++ v, rfl⟩

/-- A cause that names no character and no zero fits every place. -/
def Plain (cause : SyntaxCause) : Prop := cause.expected = none ∧ cause ≠ .leadingZero

theorem Plain.blames {cause : SyntaxCause} (h : Plain cause) (rest ext : List Char) :
    Blames cause rest ext :=
  ⟨by simp [h.1], fun hzero => absurd hzero h.2⟩

/-- What a rule consumes is a text of `P` where it finds one, and begins a text of `P` where it fails,
in accordance with the cause. -/
structure Faithful (P : List Char → α → Prop) (rule : List Char → Reading α) : Prop where
  found : ∀ {input a rest}, rule input = .found a rest → ∃ u, input = u ++ rest ∧ P u a
  failed : ∀ {input cause rest}, rule input = .failed cause rest →
    ∃ u ext a, input = u ++ rest ∧ P (u ++ ext) a ∧ Blames cause rest ext

/-! ## Combinators -/

theorem Faithful.mono {P Q : List Char → α → Prop} {rule : List Char → Reading α}
    (h : Faithful P rule) (hPQ : ∀ u a, P u a → Q u a) : Faithful Q rule where
  found hfound := by
    obtain ⟨u, hu, hP⟩ := h.found hfound
    exact ⟨u, hu, hPQ u _ hP⟩
  failed hfailed := by
    obtain ⟨u, ext, a, hu, hP, hc⟩ := h.failed hfailed
    exact ⟨u, ext, a, hu, hPQ _ a hP, hc⟩

/-- Finding something without consuming anything. -/
theorem found_faithful {P : List Char → α → Prop} {a : α} (h : P [] a) :
    Faithful P (fun input => .found a input) where
  found hfound := by
    rw [Reading.found.injEq] at hfound
    obtain ⟨rfl, rfl⟩ := hfound
    exact ⟨[], rfl, h⟩
  failed hfailed := by simp at hfailed

/-- A rule that may choose between faithful ones by looking at the input. -/
theorem Faithful.of_forall {ι : Type} {P : List Char → α → Prop}
    {rule : ι → List Char → Reading α} (h : ∀ i, Faithful P (rule i)) (choose : List Char → ι) :
    Faithful P (fun input => rule (choose input) input) :=
  ⟨fun hfound => (h _).found hfound, fun hfailed => (h _).failed hfailed⟩

/-- A rule that one character commits to what follows it. -/
theorem Faithful.afterHead {P : List Char → α → Prop} {body rule : List Char → Reading α}
    {c : Char} (h : Faithful (fun u a => P (c :: u) a) body)
    (hrule : ∀ input, rule input = .absent ∨ ∃ rest, input = c :: rest ∧ rule input = body rest) :
    Faithful P rule where
  found {input a rest} hfound := by
    rcases hrule input with habsent | ⟨tail, rfl, hbody⟩
    · simp [habsent] at hfound
    · obtain ⟨u, rfl, hu⟩ := h.found (hbody ▸ hfound)
      exact ⟨c :: u, rfl, hu⟩
  failed {input cause rest} hfailed := by
    rcases hrule input with habsent | ⟨tail, rfl, hbody⟩
    · simp [habsent] at hfailed
    · obtain ⟨u, ext, a, rfl, hu, hc⟩ := h.failed (hbody ▸ hfailed)
      exact ⟨c :: u, ext, a, rfl, hu, hc⟩

theorem Faithful.map {P : List Char → α → Prop} {Q : List Char → β → Prop}
    {rule : List Char → Reading α} {f : α → β} (h : Faithful P rule)
    (hf : ∀ u a, P u a → Q u (f a)) : Faithful Q (fun input => (rule input).map f) where
  found hfound := by
    obtain ⟨a, hr, rfl⟩ := map_eq_found.mp hfound
    obtain ⟨u, hu, hP⟩ := h.found hr
    exact ⟨u, hu, hf u a hP⟩
  failed hfailed := by
    obtain ⟨u, ext, a, hu, hP, hc⟩ := h.failed (map_eq_failed.mp hfailed)
    exact ⟨u, ext, f a, hu, hf _ a hP, hc⟩

theorem Faithful.orElse {P : List Char → α → Prop} {rule other : List Char → Reading α}
    (h : Faithful P rule) (ho : Faithful P other) :
    Faithful P (fun input => (rule input).orElse fun _ => other input) where
  found hfound := by
    rcases orElse_eq_found.mp hfound with hr | ⟨_, hr⟩
    · exact h.found hr
    · exact ho.found hr
  failed hfailed := by
    rcases orElse_eq_failed.mp hfailed with hr | ⟨_, hr⟩
    · exact h.failed hr
    · exact ho.failed hr

/-- A rule that must find something may fail at once, since some text of the class could follow. -/
theorem Faithful.orFail {P : List Char → α → Prop} {rule : List Char → Reading α}
    {cause : SyntaxCause} {w : List Char} {a : α} (h : Faithful P rule) (hw : P w a)
    (hcause : Plain cause) : Faithful P (fun input => (rule input).orFail cause input) where
  found hfound := h.found (orFail_eq_found.mp hfound)
  failed hfailed := by
    rcases orFail_eq_failed.mp hfailed with hr | ⟨_, rfl, rfl⟩
    · exact h.failed hr
    · exact ⟨[], w, a, rfl, hw, hcause.blames _ w⟩

/-- Two rules in a row: the second is faithful to what can follow the text of the first, and something
always can. -/
theorem Faithful.andThen {P : List Char → α → Prop} {R : List Char → β → Prop}
    {rule : List Char → Reading α} {next : α → List Char → Reading β} (h : Faithful P rule)
    (hnext : ∀ u a, P u a → Faithful (fun v b => R (u ++ v) b) (next a))
    (hgo : ∀ u a, P u a → ∃ v b, R (u ++ v) b) :
    Faithful R (fun input => (rule input).andThen next) where
  found hfound := by
    obtain ⟨a, mid, hr, hn⟩ := andThen_eq_found.mp hfound
    obtain ⟨u, rfl, hP⟩ := h.found hr
    obtain ⟨v, rfl, hR⟩ := (hnext u a hP).found hn
    exact ⟨u ++ v, by rw [List.append_assoc], hR⟩
  failed hfailed := by
    rcases andThen_eq_failed.mp hfailed with hr | ⟨a, mid, hr, hn⟩
    · -- the first rule fails: what completes it is completed by anything that can follow
      obtain ⟨u, ext, a, hu, hP, hc⟩ := h.failed hr
      obtain ⟨v, b, hR⟩ := hgo (u ++ ext) a hP
      exact ⟨u, ext ++ v, b, hu, by rwa [← List.append_assoc], hc.append v⟩
    · obtain ⟨u, rfl, hP⟩ := h.found hr
      obtain ⟨v, ext, b, rfl, hR, hc⟩ := (hnext u a hP).failed hn
      refine ⟨u ++ v, ext, b, by rw [List.append_assoc], ?_, hc⟩
      rwa [List.append_assoc]

end Reading

namespace Grammar

open Reading

variable {lang : Language}

/-! ## Atoms -/

theorem expect_faithful (c : Char) : Faithful (fun u _ => u = [c]) (expect c) where
  found hfound := ⟨[c], expect_eq_found.mp hfound, rfl⟩
  failed hfailed := by
    obtain ⟨rfl, rfl, _⟩ := expect_eq_failed.mp hfailed
    refine ⟨[], [c], (), rfl, rfl, ⟨fun d hd => ?_, by simp⟩⟩
    rw [SyntaxCause.expected, Option.some.injEq] at hd
    exact ⟨[], by rw [hd]⟩

theorem numeral_faithful : Faithful (fun u n => n.Regular ∧ u = n.text) Numeral.read where
  found {input n rest} hfound := by
    have hrun := Numeral.run_read input
    rw [hfound] at hrun
    cases hrun with
    | found hn _ => exact ⟨n.text, rfl, hn, rfl⟩
  failed {input cause rest} hfailed := by
    have hrun := Numeral.run_read input
    rw [hfailed] at hrun
    -- in every case a zero, or nothing, completes the numeral
    cases hrun with
    | signWithoutDigit _ =>
      exact ⟨['-'], ['0'], ⟨true, ['0'], []⟩, rfl, ⟨⟨.zero, by simp⟩, rfl⟩,
        Plain.blames ⟨rfl, by simp⟩ _ _⟩
    | leadingZero negative hd =>
      exact ⟨Numeral.sign negative, ['0'], ⟨negative, ['0'], []⟩, rfl,
        ⟨⟨.zero, by simp⟩, (Numeral.text_integral negative ['0']).symm⟩,
        ⟨by simp [SyntaxCause.expected], fun _ => ⟨_, _, rfl, hd⟩⟩⟩
    | @pointWithoutDigit negative whole rest hw _ =>
      refine ⟨Numeral.sign negative ++ whole ++ ['.'], ['0'], ⟨negative, whole, ['0']⟩, ?_,
        ⟨⟨hw, by simp⟩, ?_⟩, Plain.blames ⟨rfl, by simp⟩ _ _⟩
      · rw [List.append_assoc _ ['.'], List.singleton_append]
      · rw [Numeral.text_fractional _ _ (by simp), List.append_assoc _ ['.'],
          List.singleton_append]
    | @secondPoint n hn _ rest =>
      exact ⟨n.text, [], n, rfl, ⟨hn, List.append_nil _⟩, Plain.blames ⟨rfl, by simp⟩ _ _⟩

theorem name_faithful : Faithful (fun u s => IsName u ∧ s = String.ofList u) (name lang) where
  found {input s rest} hfound := by
    have hrun := nameRun_name lang input
    rw [hfound] at hrun
    cases hrun with
    | found hn _ => exact ⟨_, rfl, hn, rfl⟩
  failed {input cause rest} hfailed := by
    have hrun := nameRun_name lang input
    rw [hfailed] at hrun
    cases hrun with
    | @runsOn letters _ hn _ _ =>
      refine ⟨letters, [], String.ofList letters, rfl, ?_, Plain.blames ⟨rfl, by simp⟩ _ _⟩
      rw [List.append_nil]
      exact ⟨hn, rfl⟩

theorem number_faithful : Faithful (Derives .term) number :=
  numeral_faithful.map fun _ _ ⟨hn, hu⟩ => hu ▸ .number hn

theorem reference_faithful : Faithful (Derives .term) (reference lang) :=
  name_faithful.map fun _ _ ⟨hn, hs⟩ => hs ▸ .name hn

theorem component_faithful :
    Faithful (fun u x => ∃ n : Numeral, n.Regular ∧ u = n.text ∧ x = n.toDouble) component := by
  have hmap := numeral_faithful.map (f := Numeral.toDouble)
    (Q := fun u x => ∃ n : Numeral, n.Regular ∧ u = n.text ∧ x = n.toDouble)
    fun u n ⟨hn, hu⟩ => ⟨n, hn, hu, rfl⟩
  exact hmap.orFail ⟨.zero, Numeral.zero_regular, rfl, rfl⟩ ⟨rfl, by simp⟩

theorem components_faithful :
    Faithful (fun u e => Derives .term ('[' :: u) e) components := by
  -- what is still due at each of the four steps completes the vector, with zeros where none is read
  have hzero := Numeral.zero_regular
  refine component_faithful.andThen ?_ ?_
  · rintro _ _ ⟨x, hx, rfl, rfl⟩
    refine (expect_faithful ',').andThen ?_ ?_
    · rintro _ _ rfl
      refine component_faithful.andThen ?_ ?_
      · rintro _ _ ⟨y, hy, rfl, rfl⟩
        refine (expect_faithful ']').andThen ?_ ?_
        · rintro _ _ rfl
          exact found_faithful (.vector hx hy)
        · rintro _ _ rfl
          exact ⟨[], _, .vector hx hy⟩
      · rintro _ _ ⟨y, hy, rfl, rfl⟩
        exact ⟨[']'], _, .vector hx hy⟩
    · rintro _ _ rfl
      exact ⟨Numeral.zero.text ++ [']'], _, .vector hx hzero⟩
  · rintro _ _ ⟨x, hx, rfl, rfl⟩
    exact ⟨',' :: (Numeral.zero.text ++ [']']), _, .vector hx hzero⟩

theorem vector_faithful : Faithful (Derives .term) vector := by
  refine components_faithful.afterHead fun input => ?_
  unfold vector
  split
  · exact .inr ⟨_, rfl, rfl⟩
  · exact .inl rfl

/-! ## Chains -/

/-- Left-associative chains of operands, for any class of operands. -/
inductive Chain (operators : List Operator) (P : List Char → Expr → Prop) :
    List Char → Expr → Prop where
  | first {w : List Char} {e : Expr} (h : P w e) : Chain operators P w e
  | link {u v : List Char} {l r : Expr} {op : Operator} (hop : op ∈ operators)
      (hl : Chain operators P u l) (hr : P v r) :
      Chain operators P (u ++ op.symbol :: v) (.binary op l r)

theorem derives_product_of_chain {w : List Char} {e : Expr}
    (h : Chain Operator.multiplicative (Derives .term) w e) : Derives .product w e := by
  induction h with
  | first h => exact .factor h
  | link hop _ hr ih => exact .scale hop ih hr

theorem derives_sum_of_chain {w : List Char} {e : Expr}
    (h : Chain Operator.additive (Derives .product) w e) : Derives .sum w e := by
  induction h with
  | first h => exact .summand h
  | link hop _ hr ih => exact .extend hop ih hr

theorem ofSymbol?_eq_some {operators : List Operator} {c : Char} {op : Operator}
    (h : Operator.ofSymbol? operators c = some op) : op ∈ operators ∧ op.symbol = c :=
  ⟨List.mem_of_find?_eq_some h, by simpa using List.find?_some h⟩

section

variable {operators : List Operator} {P : List Char → Expr → Prop}
  {operand : List Char → Reading Expr}

/-- One link: an operator and its right operand make a chain longer. -/
theorem link_faithful (h : Faithful P operand) {w : List Char} {e : Expr} (hw : P w e)
    {u : List Char} {left : Expr} (hleft : Chain operators P u left) {op : Operator}
    (hop : op ∈ operators) (next : Expr → List Char → Reading Expr)
    (hnext : ∀ v right, Chain operators P v (.binary op left right) →
      Faithful (fun v' e => Chain operators P (v ++ v') e) (next (.binary op left right))) :
    Faithful (fun v e => Chain operators P (u ++ op.symbol :: v) e) (fun rest =>
      ((operand rest).orFail (.operandMissing op) rest).andThen fun right rest' =>
        next (.binary op left right) rest') := by
  refine (h.orFail hw ⟨rfl, by simp⟩).andThen ?_ ?_
  · intro v right hv
    have hlink := hnext _ right (.link hop hleft hv)
    simpa only [List.append_assoc, List.cons_append] using hlink
  · intro v right hv
    refine ⟨[], .binary op left right, ?_⟩
    rw [List.append_nil]
    exact .link hop hleft hv

/-- The links read after a chain make it a longer chain. -/
theorem links_faithful (h : Faithful P operand) {w : List Char} {e : Expr} (hw : P w e)
    (rounds : Nat) {u : List Char} {left : Expr} (hleft : Chain operators P u left) :
    Faithful (fun v e => Chain operators P (u ++ v) e) (links operators operand rounds left) := by
  have hstop : ∀ {u left}, Chain operators P u left →
      Faithful (fun v e => Chain operators P (u ++ v) e) (fun input => .found left input) :=
    fun hleft => found_faithful (by rwa [List.append_nil])
  induction rounds generalizing u left with
  | zero => exact hstop hleft
  | succ rounds ih =>
    have hlink : ∀ op ∈ operators, Faithful (fun v e => Chain operators P (u ++ op.symbol :: v) e)
        (fun rest => ((operand rest).orFail (.operandMissing op) rest).andThen fun right rest' =>
          links operators operand rounds (.binary op left right) rest') := fun op hop =>
      link_faithful h hw hleft hop (links operators operand rounds) fun v right hv => ih hv
    constructor
    · intro input a rest hfound
      cases input with
      | nil => exact (hstop hleft).found hfound
      | cons c input =>
        rw [links] at hfound
        split at hfound
        · exact (hstop hleft).found hfound
        · rename_i op hc
          obtain ⟨hop, rfl⟩ := ofSymbol?_eq_some hc
          obtain ⟨v, rfl, hv⟩ := (hlink op hop).found hfound
          exact ⟨op.symbol :: v, rfl, hv⟩
    · intro input cause rest hfailed
      cases input with
      | nil => exact (hstop hleft).failed hfailed
      | cons c input =>
        rw [links] at hfailed
        split at hfailed
        · exact (hstop hleft).failed hfailed
        · rename_i op hc
          obtain ⟨hop, rfl⟩ := ofSymbol?_eq_some hc
          obtain ⟨v, ext, e, rfl, hv, hcause⟩ := (hlink op hop).failed hfailed
          exact ⟨op.symbol :: v, ext, e, rfl, hv, hcause⟩

theorem chain_faithful (h : Faithful P operand) {w : List Char} {e : Expr} (hw : P w e) :
    Faithful (Chain operators P) (chain operators operand) := by
  refine h.andThen (fun u first hu => ?_) (fun u first hu => ⟨[], first, ?_⟩)
  · exact .of_forall (fun rounds => links_faithful h hw rounds (.first hu)) List.length
  · rw [List.append_nil]
    exact .first hu

end

/-! ## Terms, products, sums and groups -/

section

variable {inner : List Char → Reading Expr}

theorem termWith_faithful (h : Faithful (Derives .term) inner) :
    Faithful (Derives .term) (termWith lang inner) :=
  number_faithful.orElse (vector_faithful.orElse (reference_faithful.orElse h))

theorem productWith_faithful (h : Faithful (Derives .term) inner) :
    Faithful (Derives .product) (productWith lang inner) :=
  (chain_faithful (termWith_faithful h) derives_zero).mono fun _ _ => derives_product_of_chain

theorem sumWith_faithful (h : Faithful (Derives .term) inner) :
    Faithful (Derives .sum) (sumWith lang inner) :=
  (chain_faithful (productWith_faithful h) (.factor derives_zero)).mono
    fun _ _ => derives_sum_of_chain

/-- What stands after an opening parenthesis, given what a group inside is. -/
theorem groupBody_faithful (lang : Language) (h : Faithful (Derives .term) inner) :
    Faithful (fun u e => Derives .term ('(' :: u) e) (fun rest =>
      ((sumWith lang inner rest).orFail .groupEmpty rest).andThen fun e rest' =>
        (expect ')' rest').andThen fun _ rest'' => .found e rest'') := by
  refine ((sumWith_faithful h).orFail derives_zero.toSum ⟨rfl, by simp⟩).andThen ?_ ?_
  · intro w e hw
    refine (expect_faithful ')').andThen ?_ ?_
    · rintro _ _ rfl
      exact found_faithful (by simpa using Derives.group hw)
    · rintro _ _ rfl
      exact ⟨[], e, .group hw⟩
  · intro w e hw
    exact ⟨[')'], e, .group hw⟩

end

/-- A group is absent, or what follows its opening parenthesis decides. -/
theorem opens_group {body : List Char → Reading Expr} (levels : Nat)
    (hbody : ∀ rest, group lang levels ('(' :: rest) = body rest) (input : List Char) :
    group lang levels input = .absent ∨
      ∃ rest, input = '(' :: rest ∧ group lang levels input = body rest := by
  by_cases h : ∃ rest, input = '(' :: rest
  · obtain ⟨rest, rfl⟩ := h
    exact .inr ⟨rest, rfl, hbody rest⟩
  · exact .inl (group_of_ne_open lang levels fun rest hrest => h ⟨rest, hrest⟩)

theorem group_faithful (levels : Nat) : Faithful (Derives .term) (group lang levels) := by
  induction levels with
  | zero =>
    have hbody : Faithful (fun u e => Derives .term ('(' :: u) e)
        (fun rest => .failed .nestedTooDeeply rest) := by
      refine ⟨by simp, ?_⟩
      intro input cause rest hfailed
      rw [Reading.failed.injEq] at hfailed
      obtain ⟨rfl, rfl⟩ := hfailed
      exact ⟨[], ['0', ')'], _, rfl, .group derives_zero.toSum, Plain.blames ⟨rfl, by simp⟩ _ _⟩
    exact hbody.afterHead (opens_group 0 fun _ => rfl)
  | succ levels ih =>
    exact (groupBody_faithful lang ih).afterHead (opens_group (levels + 1) fun _ => rfl)

theorem term_faithful (levels : Nat) : Faithful (Derives .term) (term lang levels) :=
  termWith_faithful (group_faithful levels)

theorem product_faithful (levels : Nat) : Faithful (Derives .product) (product lang levels) :=
  productWith_faithful (group_faithful levels)

theorem sum_faithful (levels : Nat) : Faithful (Derives .sum) (sum lang levels) :=
  sumWith_faithful (group_faithful levels)

end Grammar

end PlaneCalc

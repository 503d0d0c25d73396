import PlaneCalc.Proofs.Grammar.Faithful

/-!
# What derives is read

A phrase of the grammar is found by the rule of its rank, whatever its length, if enough levels are
left for its groups and if it is followed by something that can follow a name. The rules read a chain
from the left and keep what they have, while a derivation of a chain ends with its last link; so the
induction shows that a rule, having passed over a phrase, stands where its loop would go on with the
expression of the phrase (`resume`).
-/

namespace PlaneCalc.Grammar

open Reading

variable {lang : Language}

/-! ## Loops over the links of a chain -/

section

variable {operators : List Operator} {operand : List Char → Reading Expr}

/-- The links after an expression, with as many rounds as there are characters left. -/
def loop (operators : List Operator) (operand : List Char → Reading Expr) (left : Expr)
    (input : List Char) : Reading Expr :=
  links operators operand input.length left input

/-- A rule that never leaves more than it was given. -/
def Shrinks (rule : List Char → Reading Expr) : Prop :=
  ∀ input a rest, rule input = .found a rest → rest.length ≤ input.length

/-- More rounds than characters change nothing. -/
theorem links_rounds (h : Shrinks operand) (n m : Nat) (left : Expr) (input : List Char)
    (hn : input.length ≤ n) (hm : input.length ≤ m) :
    links operators operand n left input = links operators operand m left input := by
  -- a round takes at least the operator, so the rounds of both sides outlast the input
  induction n generalizing m left input with
  | zero =>
    have hnil : input = [] := List.length_eq_zero_iff.mp (by omega)
    subst hnil
    cases m <;> rfl
  | succ n ih =>
    cases m with
    | zero =>
      have hnil : input = [] := List.length_eq_zero_iff.mp (by omega)
      subst hnil
      rfl
    | succ m =>
      cases input with
      | nil => rfl
      | cons c input =>
        rw [List.length_cons] at hn hm
        rw [links, links]
        cases hop : Operator.ofSymbol? operators c with
        | none => rfl
        | some op =>
          cases hread : operand input with
          | absent => rfl
          | failed cause rest => rfl
          | found right rest =>
            have hlen := h input right rest hread
            exact ih m (.binary op left right) rest (by omega) (by omega)

/-- The links end where no operator of the chain follows. -/
theorem links_of_stops (rounds : Nat) (left : Expr) {rest : List Char}
    (h : Stops (fun c => (Operator.ofSymbol? operators c).isSome) rest) :
    links operators operand rounds left rest = .found left rest := by
  cases rounds with
  | zero => rfl
  | succ rounds =>
    cases rest with
    | nil => rfl
    | cons c rest =>
      have hnone : Operator.ofSymbol? operators c = none := by simpa using stops_cons.mp h
      rw [links, hnone]

theorem loop_of_stops (left : Expr) {rest : List Char}
    (h : Stops (fun c => (Operator.ofSymbol? operators c).isSome) rest) :
    loop operators operand left rest = .found left rest :=
  links_of_stops _ left h

/-- One round of a loop: an operator and its right operand. -/
theorem loop_cons (h : Shrinks operand) {c : Char} {op : Operator}
    (hop : Operator.ofSymbol? operators c = some op) (left : Expr) (rest : List Char) :
    loop operators operand left (c :: rest) =
      ((operand rest).orFail (.operandMissing op) rest).andThen fun right =>
        loop operators operand (.binary op left right) := by
  rw [loop, List.length_cons, links, hop]
  cases hread : operand rest with
  | absent => rfl
  | failed cause rest' => rfl
  | found right rest' => exact links_rounds h _ _ _ _ (h rest right rest' hread) (Nat.le_refl _)

/-- A loop that stands before an operator goes on behind the right operand. -/
theorem loop_link (h : Shrinks operand) {op : Operator}
    (hop : Operator.ofSymbol? operators op.symbol = some op) (left : Expr) {right : Expr}
    {v rest : List Char} (hright : operand (v ++ rest) = .found right rest) :
    loop operators operand left (op.symbol :: (v ++ rest)) =
      loop operators operand (.binary op left right) rest := by
  rw [loop_cons h hop, hright]
  rfl

end

/-- What a faithful rule leaves is no longer than its input. -/
theorem shrinks_of_faithful {P : List Char → Expr → Prop} {rule : List Char → Reading Expr}
    (h : Faithful P rule) : Shrinks rule := by
  intro input a rest hread
  obtain ⟨u, rfl, _⟩ := h.found hread
  rw [List.length_append]
  omega

/-! ## Atoms -/

theorem number_of_ne {c : Char} {rest : List Char} (hd : c.isDigit = false) (hm : c ≠ '-') :
    number (c :: rest) = .absent := by
  have hread : Numeral.read (c :: rest) = .absent :=
    Numeral.read_of_run (.absent (stops_cons.mpr (by simp [hd, hm])))
  rw [number, hread]
  rfl

theorem vector_of_ne {c : Char} {rest : List Char} (h : c ≠ '[') : vector (c :: rest) = .absent := by
  rw [vector]
  intro more hmore
  exact h (List.cons.inj hmore).1

theorem reference_of_ne {c : Char} {rest : List Char} (h : c.isLower = false) :
    reference lang (c :: rest) = .absent := by
  rw [reference, name_of_stops lang (stops_cons.mpr h)]
  rfl

theorem component_append {n : Numeral} (hn : n.Regular) {rest : List Char}
    (h : Stops (fun c => c.isDigit || c == '.') rest) :
    component (n.text ++ rest) = .found n.toDouble rest := by
  rw [component, Numeral.read_of_run (.found hn h)]
  rfl

theorem vector_append {x y : Numeral} (hx : x.Regular) (hy : y.Regular) (rest : List Char) :
    vector ('[' :: (x.text ++ ',' :: (y.text ++ ']' :: rest))) =
      .found (.literal (.vector x.toDouble y.toDouble)) rest := by
  show components _ = _
  rw [components, component_append hx (stops_cons.mpr (by decide))]
  show (component (y.text ++ ']' :: rest)).andThen _ = _
  rw [component_append hy (stops_cons.mpr (by decide))]
  rfl

/-! ## Phrases -/

/-- The rule of a rank. -/
def reader (lang : Language) (levels : Nat) : Rank → List Char → Reading Expr
  | .term => term lang levels
  | .product => product lang levels
  | .sum => sum lang levels

/-- How the rule of a rank goes on when it has read an expression of that rank. -/
def resume (lang : Language) (levels : Nat) : Rank → Expr → List Char → Reading Expr
  | .term, e, rest => .found e rest
  | .product, e, rest => loop Operator.multiplicative (term lang levels) e rest
  | .sum, e, rest => loop Operator.additive (product lang levels) e rest

/-- What may follow a phrase of a rank, for its rule to notice where it ends. -/
def Follow (lang : Language) : Rank → List Char → Prop
  | .sum, rest => lang.endsName rest = true ∧
      Stops (fun c => (Operator.ofSymbol? Operator.multiplicative c).isSome) rest
  | _, rest => lang.endsName rest = true

theorem endsName_symbol (lang : Language) (op : Operator) (rest : List Char) :
    lang.endsName (op.symbol :: rest) = true := by
  refine Language.endsName_cons.mpr (Or.inl ?_)
  cases op <;> decide

theorem ofSymbol?_symbol_of_mem {op : Operator} :
    (op ∈ Operator.multiplicative → Operator.ofSymbol? Operator.multiplicative op.symbol = some op) ∧
      (op ∈ Operator.additive → Operator.ofSymbol? Operator.additive op.symbol = some op) := by
  cases op <;> decide

theorem term_number (levels : Nat) {n : Numeral} (hn : n.Regular) {rest : List Char}
    (h : lang.endsName rest = true) :
    term lang levels (n.text ++ rest) = .found (.literal (.scalar n.toDouble)) rest := by
  rw [term, termWith, number, Numeral.read_of_run (.found hn (Language.stops_numeral h))]
  rfl

theorem term_vector (lang : Language) (levels : Nat) {x y : Numeral} (hx : x.Regular) (hy : y.Regular)
    (rest : List Char) :
    term lang levels ('[' :: (x.text ++ ',' :: (y.text ++ ']' :: rest))) =
      .found (.literal (.vector x.toDouble y.toDouble)) rest := by
  rw [term, termWith, number_of_ne (by decide) (by decide), vector_append hx hy]
  rfl

/-- Before a name neither a number nor a vector is found. -/
theorem term_letters (levels : Nat) {letters : List Char} (hn : IsName letters)
    (rest : List Char) :
    term lang levels (letters ++ rest) =
      (reference lang (letters ++ rest)).orElse fun _ => group lang levels (letters ++ rest) := by
  obtain ⟨c, tail, rfl⟩ := List.exists_cons_of_ne_nil hn.ne_nil
  have hlower := hn.lower c (by simp)
  have hdigit : c.isDigit = false := by
    have hcode := isLower_iff.mp hlower
    rw [Bool.eq_false_iff, Ne, isDigit_iff]
    omega
  have hminus : c ≠ '-' := by rintro rfl; revert hlower; decide
  have hopen : c ≠ '[' := by rintro rfl; revert hlower; decide
  rw [term, termWith, List.cons_append, number_of_ne hdigit hminus, vector_of_ne hopen]
  rfl

theorem term_name (levels : Nat) {letters : List Char} (hn : IsName letters) {rest : List Char}
    (h : lang.endsName rest = true) :
    term lang levels (letters ++ rest) = .found (.reference (String.ofList letters)) rest := by
  rw [term_letters levels hn, reference, name_of_nameRun (NameRun.found hn h)]
  rfl

theorem term_group {levels : Nat} {w rest : List Char} {e : Expr}
    (h : sum lang levels (w ++ ')' :: rest) = .found e (')' :: rest)) :
    term lang (levels + 1) ('(' :: (w ++ ')' :: rest)) = .found e rest := by
  rw [term, termWith, number_of_ne (by decide) (by decide), vector_of_ne (by decide),
    reference_of_ne (by decide)]
  show ((sum lang levels (w ++ ')' :: rest)).orFail _ _).andThen _ = _
  rw [h]
  rfl

/-- The rule of a rank passes over a phrase of that rank and keeps its expression. -/
theorem reader_append {r : Rank} {w : List Char} {e : Expr} (h : Derives r w e) :
    ∀ levels rest, groupDepth w ≤ levels → Follow lang r rest →
      reader lang levels r (w ++ rest) = resume lang levels r e rest := by
  induction h with
  | number hn =>
    intro levels rest _ hfollow
    exact term_number levels hn hfollow
  | vector hx hy =>
    intro levels rest _ _
    show term lang levels _ = .found _ rest
    simpa using term_vector lang levels hx hy rest
  | name hn =>
    intro levels rest _ hfollow
    exact term_name levels hn hfollow
  | @group w e hw ih =>
    intro levels rest hdepth _
    rw [hw.balanced.groupDepth_group, groupDepth, Nat.max_zero] at hdepth
    obtain ⟨levels, rfl⟩ : ∃ l, levels = l + 1 := ⟨levels - 1, by omega⟩
    have hsum : sum lang levels (w ++ ')' :: rest) = .found e (')' :: rest) := by
      have hread := ih levels (')' :: rest) (by omega)
        ⟨Language.endsName_cons.mpr (Or.inl (by decide)), stops_cons.mpr (by decide)⟩
      exact hread.trans (loop_of_stops _ (stops_cons.mpr (by decide)))
    show term lang (levels + 1) _ = .found e rest
    simpa using term_group hsum
  | @factor w e _ ih =>
    intro levels rest hdepth hfollow
    show (term lang levels (w ++ rest)).andThen _ = _
    rw [show term lang levels (w ++ rest) = .found e rest from ih levels rest hdepth hfollow]
    rfl
  | @scale u v l r op hop hl hr ihl ihr =>
    intro levels rest hdepth hfollow
    rw [hl.balanced.groupDepth_link] at hdepth
    -- the loop stands before the operator with `l`, and takes one more round
    have hleft := ihl levels (op.symbol :: (v ++ rest)) (by omega) (endsName_symbol lang op _)
    have hright : term lang levels (v ++ rest) = .found r rest :=
      ihr levels rest (by omega) hfollow
    rw [List.append_assoc, List.cons_append, hleft]
    exact loop_link (shrinks_of_faithful (term_faithful levels)) (ofSymbol?_symbol_of_mem.1 hop) l
      hright
  | @summand w e _ ih =>
    intro levels rest hdepth hfollow
    -- no operator of a product follows, so the product ends here
    have hread := ih levels rest hdepth hfollow.1
    have hproduct : product lang levels (w ++ rest) = .found e rest :=
      hread.trans (loop_of_stops _ hfollow.2)
    show (product lang levels (w ++ rest)).andThen _ = _
    rw [hproduct]
    rfl
  | @extend u v l r op hop hl hr ihl ihr =>
    intro levels rest hdepth hfollow
    rw [hl.balanced.groupDepth_link] at hdepth
    -- an operator of a sum ends the product on its left
    have hadd : Stops (fun c => (Operator.ofSymbol? Operator.multiplicative c).isSome)
        (op.symbol :: (v ++ rest)) := by
      rw [stops_cons]
      revert hop
      cases op <;> decide
    have hleft := ihl levels (op.symbol :: (v ++ rest)) (by omega)
      ⟨endsName_symbol lang op _, hadd⟩
    have hright : product lang levels (v ++ rest) = .found r rest :=
      (ihr levels rest (by omega) hfollow.1).trans (loop_of_stops _ hfollow.2)
    rw [List.append_assoc, List.cons_append, hleft]
    exact loop_link (shrinks_of_faithful (product_faithful levels)) (ofSymbol?_symbol_of_mem.2 hop)
      l hright

/-- A sum that fills the input is read to its end. -/
theorem sum_of_derives (lang : Language) {w : List Char} {e : Expr} (h : Derives .sum w e)
    {levels : Nat} (hdepth : groupDepth w ≤ levels) : sum lang levels w = .found e [] := by
  have hread := reader_append h levels [] hdepth (show Follow lang .sum [] from ⟨rfl, stops_nil⟩)
  rw [List.append_nil] at hread
  exact hread

end PlaneCalc.Grammar

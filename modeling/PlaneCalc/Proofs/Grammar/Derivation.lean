import PlaneCalc.Grammar.Line

/-!
# The grammar as derivations

`Derives` relates a text to the expression that it stands for, `Sentence` a line without blanks to its
statement. Both are written over whole texts: no rest of the input, no lookahead and no limit on the
nesting appear in them, so they say what the language is and not how it is read. A sum and a product
grow on the right, which makes their chains associate to the left.

`Viable` texts are the beginnings of sentences, and `groupDepth` counts parentheses in a text without
reading it.
-/

namespace PlaneCalc

/-! ## Numerals -/

/-- The whole part of a numeral: a zero, or digits that do not begin with one. -/
inductive IsWhole : List Char → Prop where
  | zero : IsWhole ['0']
  | positive {d : Char} {ds : List Char} (hd : d.isDigit = true) (h0 : d ≠ '0')
      (hds : ∀ c ∈ ds, c.isDigit = true) : IsWhole (d :: ds)

/-- A numeral whose parts are those of the grammar. -/
structure Numeral.Regular (n : Numeral) : Prop where
  whole : IsWhole n.whole
  fraction : ∀ c ∈ n.fraction, c.isDigit = true

/-- A whole part has digits only. -/
theorem IsWhole.digits {cs : List Char} (h : IsWhole cs) : ∀ c ∈ cs, c.isDigit = true := by
  cases h with
  | zero => exact List.forall_mem_singleton.mpr rfl
  | positive hd _ hds =>
    intro c hc
    rcases List.mem_cons.mp hc with rfl | hc
    · exact hd
    · exact hds c hc

/-- A whole part begins with a digit. -/
theorem IsWhole.exists_cons {cs : List Char} (h : IsWhole cs) :
    ∃ d ds, cs = d :: ds ∧ d.isDigit = true := by
  cases h with
  | zero => exact ⟨'0', [], rfl, by decide⟩
  | positive hd _ _ => exact ⟨_, _, rfl, hd⟩

/-- The characters of a numeral. -/
theorem Numeral.Regular.mem_text {n : Numeral} (hn : n.Regular) {c : Char} (hc : c ∈ n.text) :
    c.isDigit = true ∨ c = '-' ∨ c = '.' := by
  rw [text, List.mem_append, List.mem_append] at hc
  rcases hc with (hsign | hwhole) | hfraction
  · split at hsign
    · exact .inr (.inl (List.mem_singleton.mp hsign))
    · simp at hsign
  · exact .inl (hn.whole.digits c hwhole)
  · split at hfraction
    · simp at hfraction
    · rcases List.mem_cons.mp hfraction with hpoint | hfraction
      · exact .inr (.inr hpoint)
      · exact .inl (hn.fraction c hfraction)

/-- The numeral zero. -/
def Numeral.zero : Numeral := ⟨false, ['0'], []⟩

theorem Numeral.zero_regular : Numeral.zero.Regular :=
  ⟨.zero, by simp [Numeral.zero]⟩

namespace Grammar

/-! ## Expressions and statements -/

/-- A name: at least one lower-case letter and nothing else. -/
structure IsName (letters : List Char) : Prop where
  ne_nil : letters ≠ []
  lower : ∀ c ∈ letters, c.isLower = true

/-- The rules of expressions, by how tightly they bind. -/
inductive Rank where
  | term
  | product
  | sum

/-- `Derives r w e`: the text `w` is a phrase of rank `r` and stands for `e`. -/
inductive Derives : Rank → List Char → Expr → Prop where
  | number {n : Numeral} (hn : n.Regular) :
      Derives .term n.text (.literal (.scalar n.toDouble))
  | vector {x y : Numeral} (hx : x.Regular) (hy : y.Regular) :
      Derives .term ('[' :: (x.text ++ ',' :: (y.text ++ [']'])))
        (.literal (.vector x.toDouble y.toDouble))
  | name {letters : List Char} (h : IsName letters) :
      Derives .term letters (.reference (String.ofList letters))
  | group {w : List Char} {e : Expr} (h : Derives .sum w e) :
      Derives .term ('(' :: (w ++ [')'])) e
  | factor {w : List Char} {e : Expr} (h : Derives .term w e) : Derives .product w e
  | scale {u v : List Char} {l r : Expr} {op : Operator} (hop : op ∈ Operator.multiplicative)
      (hl : Derives .product u l) (hr : Derives .term v r) :
      Derives .product (u ++ op.symbol :: v) (.binary op l r)
  | summand {w : List Char} {e : Expr} (h : Derives .product w e) : Derives .sum w e
  | extend {u v : List Char} {l r : Expr} {op : Operator} (hop : op ∈ Operator.additive)
      (hl : Derives .sum u l) (hr : Derives .product v r) :
      Derives .sum (u ++ op.symbol :: v) (.binary op l r)

/-- `Sentence lang w s`: the line `w` is a sentence of the language and stands for `s`. -/
inductive Sentence (lang : Language) : List Char → Statement → Prop where
  | expression {w : List Char} {e : Expr} (h : Derives .sum w e) : Sentence lang w (.expression e)
  | assignment {letters w : List Char} {e : Expr} (hn : IsName letters) (h : Derives .sum w e) :
      Sentence lang (letters ++ lang.symbol :: w) (.assignment (String.ofList letters) e)

/-- A text that some continuation makes a sentence. -/
def Viable (lang : Language) (w : List Char) : Prop :=
  ∃ ext s, Sentence lang (w ++ ext) s

/-- A term is a product and a sum. -/
theorem Derives.toSum {w : List Char} {e : Expr} (h : Derives .term w e) : Derives .sum w e :=
  .summand (.factor h)

/-- The shortest expression, which can stand wherever one is due. -/
theorem derives_zero : Derives .term ['0'] (.literal (.scalar Numeral.zero.toDouble)) :=
  .number Numeral.zero_regular

/-! ## How deep parentheses are nested -/

/-- The greatest number of parentheses of a text that are open at once; a closing one takes back the
last one that was opened before it. -/
def groupDepth : List Char → Nat
  | [] => 0
  | c :: rest =>
    if c = '(' then groupDepth rest + 1
    else if c = ')' then groupDepth rest - 1
    else groupDepth rest

/-- A text without parentheses. -/
def Flat (w : List Char) : Prop := ∀ c ∈ w, c ≠ '(' ∧ c ≠ ')'

theorem Flat.append {u v : List Char} (hu : Flat u) (hv : Flat v) : Flat (u ++ v) := by
  intro c hc
  rcases List.mem_append.mp hc with hc | hc
  · exact hu c hc
  · exact hv c hc

theorem flat_of_digits {w : List Char} (h : ∀ c ∈ w, c.isDigit = true) : Flat w := by
  intro c hc
  have hd := h c hc
  constructor <;> rintro rfl <;> revert hd <;> decide

theorem flat_of_isName {letters : List Char} (h : IsName letters) : Flat letters := by
  intro c hc
  have hl := h.lower c hc
  constructor <;> rintro rfl <;> revert hl <;> decide

theorem flat_text {n : Numeral} (h : n.Regular) : Flat n.text := by
  intro c hc
  rcases h.mem_text hc with hd | rfl | rfl
  · exact flat_of_digits (w := [c]) (by simpa using hd) c (by simp)
  · decide
  · decide

theorem flat_vector {x y : Numeral} (hx : x.Regular) (hy : y.Regular) :
    Flat ('[' :: (x.text ++ ',' :: (y.text ++ [']']))) := by
  have hopen : Flat ['['] := by simp [Flat]
  have hcomma : Flat [','] := by simp [Flat]
  have hclose : Flat [']'] := by simp [Flat]
  exact hopen.append ((flat_text hx).append (hcomma.append ((flat_text hy).append hclose)))

/-- Every parenthesis of the text is closed in it, so what follows is counted from the start. -/
def Balanced (w : List Char) : Prop :=
  ∀ rest, groupDepth (w ++ rest) = max (groupDepth w) (groupDepth rest)

theorem Flat.groupDepth_append {w : List Char} (h : Flat w) (rest : List Char) :
    groupDepth (w ++ rest) = groupDepth rest := by
  induction w with
  | nil => rfl
  | cons c w ih =>
    obtain ⟨hopen, hclose⟩ := h c (by simp)
    have hw : Flat w := fun d hd => h d (by simp [hd])
    rw [List.cons_append, groupDepth, if_neg hopen, if_neg hclose, ih hw]

theorem Flat.groupDepth_eq_zero {w : List Char} (h : Flat w) : groupDepth w = 0 := by
  simpa [groupDepth] using h.groupDepth_append []

theorem Flat.balanced {w : List Char} (h : Flat w) : Balanced w := by
  intro rest
  rw [h.groupDepth_append, h.groupDepth_eq_zero, Nat.zero_max]

theorem Balanced.append {u v : List Char} (hu : Balanced u) (hv : Balanced v) :
    Balanced (u ++ v) := by
  intro rest
  rw [List.append_assoc, hu, hv, hu, Nat.max_assoc]

/-- A group is one level deeper than what it encloses. -/
theorem Balanced.groupDepth_group {w : List Char} (h : Balanced w) (rest : List Char) :
    groupDepth ('(' :: (w ++ ')' :: rest)) = max (groupDepth w + 1) (groupDepth rest) := by
  rw [groupDepth, if_pos rfl, h, groupDepth, if_neg (by decide), if_pos rfl]
  omega

theorem Balanced.group {w : List Char} (h : Balanced w) : Balanced ('(' :: (w ++ [')'])) := by
  intro rest
  rw [h.groupDepth_group, List.cons_append, List.append_assoc, List.singleton_append,
    h.groupDepth_group, groupDepth, Nat.max_zero]

theorem flat_symbol (op : Operator) : Flat [op.symbol] := by
  cases op <;> simp [Flat, Operator.symbol]

/-- A chain is as deep as the deeper of its two parts. -/
theorem Balanced.groupDepth_link {u : List Char} (h : Balanced u) (op : Operator)
    (v : List Char) : groupDepth (u ++ op.symbol :: v) = max (groupDepth u) (groupDepth v) := by
  have hv : groupDepth (op.symbol :: v) = groupDepth v := (flat_symbol op).groupDepth_append v
  rw [h, hv]

/-- The parentheses of a phrase are balanced. -/
theorem Derives.balanced {r : Rank} {w : List Char} {e : Expr} (h : Derives r w e) :
    Balanced w := by
  induction h with
  | number hn => exact (flat_text hn).balanced
  | vector hx hy => exact (flat_vector hx hy).balanced
  | name hn => exact (flat_of_isName hn).balanced
  | group _ ih => exact ih.group
  | factor _ ih => exact ih
  | scale _ _ _ ihl ihr => exact ihl.append ((flat_symbol _).balanced.append ihr)
  | summand _ ih => exact ih
  | extend _ _ _ ihl ihr => exact ihl.append ((flat_symbol _).balanced.append ihr)

end Grammar

end PlaneCalc

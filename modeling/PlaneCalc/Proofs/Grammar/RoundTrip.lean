import PlaneCalc.Proofs.Grammar.Recognition

/-!
# The text of a statement reads back

The text of an expression, without its blanks, is a term: every operator expression stands in
parentheses of its own, so the derivation follows the tree and its groups are nested as deep as the
tree is. A statement is therefore read back from its text, if its names are names of the grammar and
its numbers are written as numerals that stand for them. Not every number is: the text of a very
small one has an exponent, and that of an infinite one has no digits.
-/

namespace PlaneCalc

/-! ## What can be written down -/

/-- A number whose text is a numeral that stands for it. -/
def Double.ReadsBack (x : Double) : Prop :=
  ∃ n : Numeral, n.Regular ∧ x.text.toList = n.text ∧ n.toDouble = x

/-- The numbers that a value consists of. -/
def Value.numbers : Value → List Double
  | scalar n => [n]
  | vector x y => [x, y]

/-- The names that a statement mentions, its target first. -/
def Statement.names : Statement → List String
  | expression e => e.names
  | assignment target value => target :: value.names

/-- An expression that uses names of the grammar only, and numbers that read back. -/
structure Expr.Writable (e : Expr) : Prop where
  names : ∀ name ∈ e.names, Grammar.IsName name.toList
  numbers : ∀ v ∈ e.literals, ∀ x ∈ v.numbers, x.ReadsBack

/-- A statement that uses names of the grammar only, and numbers that read back. -/
structure Statement.Writable (s : Statement) : Prop where
  names : ∀ name ∈ s.names, Grammar.IsName name.toList
  numbers : ∀ v ∈ s.body.literals, ∀ x ∈ v.numbers, x.ReadsBack

theorem Statement.Writable.body {s : Statement} (h : s.Writable) : s.body.Writable := by
  refine ⟨fun name hname => h.names name ?_, h.numbers⟩
  cases s with
  | expression e => exact hname
  | assignment target value => exact List.mem_cons_of_mem target hname

theorem Expr.Writable.left {op : Operator} {l r : Expr} (h : (binary op l r).Writable) :
    l.Writable where
  names name hname := h.names name (List.mem_append_left _ hname)
  numbers v hv := h.numbers v (List.mem_append_left _ hv)

theorem Expr.Writable.right {op : Operator} {l r : Expr} (h : (binary op l r).Writable) :
    r.Writable where
  names name hname := h.names name (List.mem_append_right _ hname)
  numbers v hv := h.numbers v (List.mem_append_right _ hv)

/-! ## Texts without their blanks -/

namespace Text

theorem compact_append (s t : String) : compact (s ++ t) = compact s ++ compact t := by
  rw [compact, String.toList_append, List.filter_append]
  rfl

/-- A text without blanks stays as it is. -/
theorem compact_eq_toList {s : String} (h : ∀ c ∈ s.toList, isBlank c = false) :
    compact s = s.toList := by
  rw [compact, List.filter_eq_self]
  intro c hc
  rw [h c hc]
  rfl

/-- The visible characters of ASCII are not blank. -/
theorem isBlank_of_visible {c : Char} (hlow : 0x21 ≤ c.toNat) (hhigh : c.toNat ≤ 0x7E) :
    isBlank c = false := by
  rw [isBlank, blanks, Ranges.contains, if_neg (by omega), if_neg (by omega), Ranges.contains,
    if_neg (by omega), if_neg (by omega), Ranges.contains, if_pos (by omega)]

theorem isBlank_of_isDigit {c : Char} (h : c.isDigit = true) : isBlank c = false := by
  have hcode := isDigit_iff.mp h
  exact isBlank_of_visible (by omega) (by omega)

theorem isBlank_of_isLower {c : Char} (h : c.isLower = true) : isBlank c = false := by
  have hcode := isLower_iff.mp h
  exact isBlank_of_visible (by omega) (by omega)

end Text

/-- The characters of a numeral are not blank. -/
theorem Numeral.isBlank_of_mem_text {n : Numeral} (hn : n.Regular) :
    ∀ c ∈ n.text, Text.isBlank c = false := by
  intro c hc
  rcases hn.mem_text hc with hd | rfl | rfl
  · exact Text.isBlank_of_isDigit hd
  · decide
  · decide

theorem Double.ReadsBack.exists_numeral {x : Double} (h : x.ReadsBack) :
    ∃ n : Numeral, n.Regular ∧ Text.compact x.text = n.text ∧ n.toDouble = x := by
  obtain ⟨n, hn, htext, hx⟩ := h
  refine ⟨n, hn, ?_, hx⟩
  rw [Text.compact_eq_toList, htext]
  rw [htext]
  exact Numeral.isBlank_of_mem_text hn

namespace Grammar

theorem compact_name {name : String} (h : IsName name.toList) :
    Text.compact name = name.toList :=
  Text.compact_eq_toList fun c hc => Text.isBlank_of_isLower (h.lower c hc)

/-! ## The text of an expression is a term -/

theorem compact_text_vector (x y : Double) :
    Text.compact (Value.vector x y).text =
      '[' :: (Text.compact x.text ++ ',' :: (Text.compact y.text ++ [']'])) := by
  simp only [Value.text, Text.compact_append, List.append_assoc]
  rfl

theorem compact_text_binary (op : Operator) (l r : Expr) :
    Text.compact (Expr.binary op l r).text =
      '(' :: (Text.compact l.text ++ op.symbol :: Text.compact r.text ++ [')']) := by
  have hop : Text.compact op.text = [op.symbol] := by cases op <;> decide
  simp only [Expr.text, Text.compact_append, List.append_assoc, hop]
  rfl

/-- The text of a literal is a term without parentheses. -/
theorem derives_text_literal {v : Value} (h : ∀ x ∈ v.numbers, x.ReadsBack) :
    Derives .term (Text.compact v.text) (.literal v) ∧ Flat (Text.compact v.text) := by
  cases v with
  | scalar x =>
    obtain ⟨n, hn, htext, rfl⟩ := (h x (by simp [Value.numbers])).exists_numeral
    rw [Value.text, htext]
    exact ⟨.number hn, flat_text hn⟩
  | vector x y =>
    obtain ⟨n, hn, hxtext, rfl⟩ := (h x (by simp [Value.numbers])).exists_numeral
    obtain ⟨m, hm, hytext, rfl⟩ := (h y (by simp [Value.numbers])).exists_numeral
    rw [compact_text_vector, hxtext, hytext]
    exact ⟨.vector hn hm, flat_vector hn hm⟩

/-- The text of an expression stands for the expression. -/
theorem derives_text {e : Expr} (h : e.Writable) : Derives .term (Text.compact e.text) e := by
  induction e with
  | literal v => exact (derives_text_literal (h.numbers v (by simp [Expr.literals]))).1
  | reference name =>
    have hname := h.names name (by simp [Expr.names])
    have hderives := Derives.name hname
    rw [String.ofList_toList] at hderives
    rwa [Expr.text, compact_name hname]
  | binary op l r ihl ihr =>
    rw [compact_text_binary]
    -- the operand on the right is a term, so one link makes a chain of either kind
    refine .group ?_
    cases op with
    | add => exact .extend (by decide) (ihl h.left).toSum (.factor (ihr h.right))
    | sub => exact .extend (by decide) (ihl h.left).toSum (.factor (ihr h.right))
    | mul => exact .summand (.scale (by decide) (.factor (ihl h.left)) (ihr h.right))
    | div => exact .summand (.scale (by decide) (.factor (ihl h.left)) (ihr h.right))

/-- Each operator expression opens one group. -/
theorem groupDepth_text {e : Expr} (h : e.Writable) :
    groupDepth (Text.compact e.text) + 1 = e.depth := by
  induction e with
  | literal v =>
    have hflat := (derives_text_literal (h.numbers v (by simp [Expr.literals]))).2
    rw [Expr.text, hflat.groupDepth_eq_zero, Expr.depth]
  | reference name =>
    have hname := h.names name (by simp [Expr.names])
    rw [Expr.text, compact_name hname, (flat_of_isName hname).groupDepth_eq_zero, Expr.depth]
  | binary op l r ihl ihr =>
    have hleft := (derives_text h.left).balanced
    have hright := (derives_text h.right).balanced
    have hlink : Balanced (Text.compact l.text ++ op.symbol :: Text.compact r.text) :=
      hleft.append ((flat_symbol op).balanced.append hright)
    rw [compact_text_binary, hlink.groupDepth_group, hleft.groupDepth_link, groupDepth, Expr.depth,
      ← ihl h.left, ← ihr h.right]
    omega

/-! ## Statements -/

theorem compact_text_assignment {target : String} (h : IsName target.toList) (value : Expr) :
    Text.compact (Statement.assignment target value).text =
      target.toList ++ Language.standard.symbol :: Text.compact value.text := by
  rw [Statement.text, Text.compact_append, Text.compact_append, compact_name h, List.append_assoc]
  rfl

/-- The text of a statement is a sentence of the standard language. -/
theorem sentence_text {s : Statement} (h : s.Writable) :
    Sentence .standard (Text.compact s.text) s := by
  have hderives := (derives_text h.body).toSum
  cases s with
  | expression e => exact .expression hderives
  | assignment target value =>
    have htarget : IsName target.toList := h.names target (by simp [Statement.names])
    have hsentence : Sentence .standard _ _ := .assignment htarget hderives
    rw [String.ofList_toList] at hsentence
    rw [compact_text_assignment htarget]
    exact hsentence

theorem groupDepth_text_lt {s : Statement} (h : s.Writable) :
    groupDepth (Text.compact s.text) < s.depth := by
  have hdepth := groupDepth_text h.body
  cases s with
  | expression e =>
    rw [Statement.body] at hdepth
    rw [Statement.text, Statement.depth]
    omega
  | assignment target value =>
    have htarget : IsName target.toList := h.names target (by simp [Statement.names])
    rw [Statement.body] at hdepth
    rw [compact_text_assignment htarget, groupDepth_assignment .standard htarget, Statement.depth]
    omega

theorem parse_text {s : Statement} (h : s.Writable) (hdepth : s.depth ≤ groupLimit) :
    parse .standard s.text = .ok s := by
  refine parse_eq_ok_iff.mpr (line_of_sentence (sentence_text h) ?_)
  exact Nat.le_of_lt (Nat.lt_of_lt_of_le (groupDepth_text_lt h) hdepth)

/-- The variables of a phrase have names of the grammar. -/
theorem isName_of_derives {r : Rank} {w : List Char} {e : Expr} (h : Derives r w e) :
    ∀ name ∈ e.names, IsName name.toList := by
  induction h with
  | number _ => simp [Expr.names]
  | vector _ _ => simp [Expr.names]
  | name hn => simpa [Expr.names] using hn
  | group _ ih => exact ih
  | factor _ ih => exact ih
  | summand _ ih => exact ih
  | scale _ _ _ ihl ihr =>
    intro name hname
    exact (List.mem_append.mp hname).elim (ihl name) (ihr name)
  | extend _ _ _ ihl ihr =>
    intro name hname
    exact (List.mem_append.mp hname).elim (ihl name) (ihr name)

/-- The names that a sentence mentions are names of the grammar. -/
theorem isName_of_sentence {lang : Language} {w : List Char} {s : Statement}
    (h : Sentence lang w s) : ∀ name ∈ s.names, IsName name.toList := by
  cases h with
  | expression h => exact isName_of_derives h
  | assignment hn h =>
    intro name hname
    rcases List.mem_cons.mp hname with rfl | hname
    · rwa [String.toList_ofList]
    · exact isName_of_derives h name hname

/-- A statement reads back from its text, if its names are names of the grammar and its numbers are
written as numerals that stand for them. The names of a statement that was read are such names
already, so it reads back if its numbers do, whatever the language in which it was read. -/
theorem text_reads_back :
    (∀ s : Statement, s.depth ≤ 200 → s.Writable → parse .standard s.text = .ok s) ∧
    ∀ (lang : Language) (line : String) (s : Statement), parse lang line = .ok s →
      s.depth ≤ 200 → (∀ v ∈ s.body.literals, ∀ x ∈ v.numbers, x.ReadsBack) →
      parse .standard s.text = parse lang line := by
  have hread : ∀ s : Statement, s.depth ≤ 200 → s.Writable → parse .standard s.text = .ok s :=
    fun s hdepth hs => parse_text hs (Nat.le_trans hdepth (by decide))
  refine ⟨hread, ?_⟩
  intro lang line s hparse hdepth hnumbers
  have hsentence := sentence_of_line (parse_eq_ok_iff.mp hparse)
  rw [hparse]
  exact hread s hdepth ⟨isName_of_sentence hsentence, hnumbers⟩

/-- A difference with a negative number on its right, beside a vector, in an assignment that was
read in another language. -/
theorem text_reads_back_signed_difference :
    let colon : Language := ⟨':', by decide⟩
    let one : Double := ⟨0x3FF0000000000000⟩
    let tenth : Double := ⟨0xBFB999999999999A⟩
    let s := Statement.assignment "x" (.binary .mul (.literal (.vector one tenth))
      (.binary .sub (.reference "y") (.literal (.scalar tenth))))
    s.Writable ∧ s.text = "x = ([1, -0.1] * (y - -0.1))" ∧ parse .standard s.text = .ok s ∧
      parse .standard s.text = parse colon "x : [1.0, -0.1] * (y - -0.1)" := by
  intro colon one tenth s
  have hone : one.ReadsBack :=
    ⟨⟨false, ['1'], []⟩, ⟨.positive (by decide) (by decide) (by simp), by simp⟩, by decide +kernel,
      by decide +kernel⟩
  have htenth : tenth.ReadsBack :=
    ⟨⟨true, ['0'], ['1']⟩, ⟨.zero, by simp⟩, by decide +kernel, by decide +kernel⟩
  have hnumbers : ∀ v ∈ s.body.literals, ∀ x ∈ v.numbers, x.ReadsBack := by
    simp [s, Statement.body, Expr.literals, Value.numbers, hone, htenth]
  have hs : s.Writable := by
    refine ⟨?_, hnumbers⟩
    intro name hname
    rcases List.mem_cons.mp hname with rfl | hname
    · exact ⟨by simp, by simp⟩
    · rw [List.mem_singleton.mp hname]
      exact ⟨by simp, by simp⟩
  refine ⟨hs, by decide +kernel, text_reads_back.1 s (by decide) hs, ?_⟩
  exact text_reads_back.2 colon _ s (by decide +kernel) (by decide) hnumbers

end Grammar

end PlaneCalc

import PlaneCalc.Proofs.Grammar.Recognition

/-!
# Reports point at the fault

A report is read row by row, with its tabs filled up to every eighth column. It has the rows that it
was made of only if no character in them breaks a row, and the caret stands under the place of the
fault only if no character of the line is a tab. Both hold since such characters are blank: the line is
shown without its blanks, and the characters that a cause quotes are closing characters or the
assignment symbol (`Quotes`).
-/

namespace PlaneCalc

/-! ## Rows and columns of a text -/

namespace Text

/-- Code points of the characters that break a text into rows. -/
def lineBreaks : Ranges := [(0x0A, 0x0D), (0x1C, 0x1E), (0x85, 0x85), (0x2028, 0x2029)]

/-- Whether a character breaks a text into rows. -/
def isLineBreak (c : Char) : Bool := lineBreaks.contains c.toNat

/-- The rows of a text. -/
def rows (text : String) : List String := (text.toList.splitOnP isLineBreak).map String.ofList

/-- A text of a single row. -/
def Unbroken (text : String) : Prop := ∀ c ∈ text.toList, isLineBreak c = false

instance (text : String) : Decidable (Unbroken text) :=
  List.decidableBAll (fun c => isLineBreak c = false) text.toList

/-- Whatever breaks a row is blank. -/
theorem isLineBreak_of_isBlank {c : Char} (h : isBlank c = false) : isLineBreak c = false := by
  simp only [isBlank, blanks, isLineBreak, lineBreaks, Ranges.contains] at h ⊢
  grind

theorem Unbroken.append {s t : String} (hs : Unbroken s) (ht : Unbroken t) : Unbroken (s ++ t) := by
  intro c hc
  rw [String.toList_append, List.mem_append] at hc
  exact hc.elim (hs c) (ht c)

theorem unbroken_ofList {w : List Char} (h : ∀ c ∈ w, isBlank c = false) :
    Unbroken (String.ofList w) := by
  intro c hc
  rw [String.toList_ofList] at hc
  exact isLineBreak_of_isBlank (h c hc)

theorem unbroken_toString {c : Char} (h : isBlank c = false) : Unbroken c.toString :=
  unbroken_ofList (by simpa using h)

/-- A quotation that is closed behind a single character. -/
theorem Unbroken.quoted {before : String} (h : Unbroken before) {c : Char}
    (hc : isBlank c = false) : Unbroken (before ++ c.toString ++ "'") :=
  (h.append (unbroken_toString hc)).append (by decide +kernel)

/-- Texts of a single row, put on rows of their own, are found again. -/
theorem rows_intercalate {texts : List String} (hne : texts ≠ []) (h : ∀ t ∈ texts, Unbroken t) :
    rows ("\n".intercalate texts) = texts := by
  have hsplit : (['\n'].intercalate (texts.map String.toList)).splitOnP isLineBreak =
      texts.map String.toList := by
    induction texts with
    | nil => exact absurd rfl hne
    | cons t texts ih =>
      have ht := List.splitOnP_eq_singleton (h t (by simp))
      cases texts with
      | nil => rwa [List.map_singleton, List.intercalate_singleton]
      | cons t' texts =>
        have hrest := ih (by simp) fun u hu => h u (List.mem_cons_of_mem t hu)
        rw [List.map_cons, List.map_cons, List.intercalate_cons_cons, List.append_assoc,
          List.singleton_append, List.splitOnP_append_cons _ _ (by decide), ht, ← List.map_cons,
          hrest]
        rfl
  have hnewline : "\n".toList = ['\n'] := by simp
  rw [rows, String.toList_intercalate, hnewline, hsplit, List.map_map]
  exact (List.map_congr_left fun t _ => String.ofList_toList).trans (List.map_id texts)

/-- The characters of a row from a column on, one in each column: a tab takes columns up to the next
whose number is a multiple of eight. Columns count characters, unlike the cells of a terminal. -/
def columnsFrom (column : Nat) : List Char → List Char
  | [] => []
  | c :: rest =>
    if c = '\t' then
      List.replicate (8 - column % 8) ' ' ++ columnsFrom (column + (8 - column % 8)) rest
    else c :: columnsFrom (column + 1) rest

/-- A row with one character in each column. -/
def columns (row : String) : List Char := columnsFrom 0 row.toList

/-- Without a tab, every character takes one column. -/
theorem columnsFrom_of_not_mem {w : List Char} (h : '\t' ∉ w) (column : Nat) :
    columnsFrom column w = w := by
  induction w generalizing column with
  | nil => rfl
  | cons c w ih =>
    rw [List.mem_cons, not_or] at h
    rw [columnsFrom, if_neg (Ne.symm h.1), ih h.2]

/-- A row goes on in the column where its first part ends. -/
theorem columnsFrom_append (column : Nat) (u v : List Char) :
    columnsFrom column (u ++ v) =
      columnsFrom column u ++ columnsFrom (column + (columnsFrom column u).length) v := by
  induction u generalizing column with
  | nil => rfl
  | cons c u ih =>
    rw [List.cons_append, columnsFrom, columnsFrom]
    split
    · rw [ih, List.length_append, List.length_replicate, List.append_assoc, Nat.add_assoc]
    · rw [ih, List.length_cons, List.cons_append, Nat.add_right_comm, Nat.add_assoc]

/-- A text without tabs begins behind the columns of what stands before it. -/
theorem columns_append {margin : String} {w : List Char} (h : '\t' ∉ w) :
    columns (margin ++ String.ofList w) = columns margin ++ w := by
  rw [columns, String.toList_append, String.toList_ofList, columnsFrom_append, columnsFrom_of_not_mem h]
  rfl

end Text

/-! ## What causes quote -/

/-- The characters that a cause quotes: one that closes something, or the assignment symbol. -/
def SyntaxCause.Quotes (lang : Language) : SyntaxCause → Prop
  | missing c => c ∈ Language.closers
  | valueMissing c => c = lang.symbol
  | _ => True

namespace Reading

variable {α β : Type} {lang : Language}

/-- A rule whose faults quote characters of the language only. -/
def Quoting (lang : Language) (rule : List Char → Reading α) : Prop :=
  ∀ input cause rest, rule input = .failed cause rest → cause.Quotes lang

theorem Quoting.map {rule : List Char → Reading α} (h : Quoting lang rule) (f : α → β) :
    Quoting lang (fun input => (rule input).map f) :=
  fun input cause rest hfailed => h input cause rest (map_eq_failed.mp hfailed)

theorem Quoting.orElse {rule other : List Char → Reading α} (h : Quoting lang rule)
    (ho : Quoting lang other) :
    Quoting lang (fun input => (rule input).orElse fun _ => other input) := by
  intro input cause rest hfailed
  rcases orElse_eq_failed.mp hfailed with hr | ⟨_, hr⟩
  · exact h input cause rest hr
  · exact ho input cause rest hr

theorem Quoting.orFail {rule : List Char → Reading α} (h : Quoting lang rule)
    (cause : SyntaxCause) (hcause : cause.Quotes lang) :
    Quoting lang (fun input => (rule input).orFail cause input) := by
  intro input cause' rest hfailed
  rcases orFail_eq_failed.mp hfailed with hr | ⟨_, rfl, _⟩
  · exact h input cause' rest hr
  · exact hcause

theorem Quoting.andThen {rule : List Char → Reading α} {next : α → List Char → Reading β}
    (h : Quoting lang rule) (hnext : ∀ a, Quoting lang (next a)) :
    Quoting lang (fun input => (rule input).andThen next) := by
  intro input cause rest hfailed
  rcases andThen_eq_failed.mp hfailed with hr | ⟨a, mid, _, hn⟩
  · exact h input cause rest hr
  · exact hnext a mid cause rest hn

theorem quoting_found (a : α) : Quoting lang (.found a) := nofun

end Reading

namespace Grammar

open Reading

variable {lang : Language}

theorem numeral_quoting : Quoting lang Numeral.read := by
  intro input cause rest hfailed
  have hrun := Numeral.run_read input
  rw [hfailed] at hrun
  cases hrun <;> trivial

theorem name_quoting : Quoting lang (name lang) := by
  intro input cause rest hfailed
  have hrun := nameRun_name lang input
  rw [hfailed] at hrun
  cases hrun
  trivial

theorem expect_quoting (c : Char) (h : c ∈ Language.closers) : Quoting lang (expect c) := by
  intro input cause rest hfailed
  obtain ⟨rfl, _⟩ := expect_eq_failed.mp hfailed
  exact h

theorem component_quoting : Quoting lang component :=
  (numeral_quoting.map Numeral.toDouble).orFail .componentMissing trivial

theorem vector_quoting : Quoting lang vector := by
  have hcomponents : Quoting lang components :=
    component_quoting.andThen fun x => (expect_quoting ',' (by decide)).andThen fun _ =>
      component_quoting.andThen fun y => (expect_quoting ']' (by decide)).andThen fun _ =>
        quoting_found (Expr.literal (.vector x y))
  intro input cause rest hfailed
  unfold vector at hfailed
  split at hfailed
  · exact hcomponents _ cause rest hfailed
  · nomatch hfailed

section

variable {operators : List Operator} {operand inner : List Char → Reading Expr}

theorem links_quoting (h : Quoting lang operand) (rounds : Nat) (left : Expr) :
    Quoting lang (links operators operand rounds left) := by
  induction rounds generalizing left with
  | zero => exact quoting_found left
  | succ rounds ih =>
    intro input cause rest hfailed
    cases input with
    | nil => simp [links] at hfailed
    | cons c input =>
      rw [links] at hfailed
      split at hfailed
      · simp at hfailed
      · rename_i op _
        have hround := (h.orFail (.operandMissing op) trivial).andThen
          fun right => ih (.binary op left right)
        exact hround input cause rest hfailed

theorem chain_quoting (h : Quoting lang operand) : Quoting lang (chain operators operand) :=
  h.andThen fun first input cause rest => links_quoting h input.length first input cause rest

theorem termWith_quoting (h : Quoting lang inner) : Quoting lang (termWith lang inner) :=
  (numeral_quoting.map _).orElse (vector_quoting.orElse ((name_quoting.map _).orElse h))

theorem sumWith_quoting (h : Quoting lang inner) : Quoting lang (sumWith lang inner) :=
  chain_quoting (chain_quoting (termWith_quoting h))

end

theorem group_quoting (lang : Language) (levels : Nat) : Quoting lang (group lang levels) := by
  induction levels with
  | zero =>
    intro input cause rest hfailed
    rcases @opens_group lang _ 0 (fun _ => rfl) input with habsent | ⟨tail, rfl, hbody⟩
    · simp [habsent] at hfailed
    · obtain ⟨rfl, _⟩ := Reading.failed.inj (hbody.symm.trans hfailed)
      trivial
  | succ levels ih =>
    intro input cause rest hfailed
    rcases @opens_group lang _ (levels + 1) (fun _ => rfl) input with
      habsent | ⟨tail, rfl, hbody⟩
    · simp [habsent] at hfailed
    · have hinside := ((sumWith_quoting ih).orFail .groupEmpty trivial).andThen
        fun e => (expect_quoting ')' (by decide)).andThen fun _ => quoting_found e
      exact hinside tail cause rest (hbody.symm.trans hfailed)

theorem sum_quoting (lang : Language) (levels : Nat) : Quoting lang (sum lang levels) :=
  sumWith_quoting (group_quoting lang levels)

theorem atEnd_quoting {α : Type} (cause : SyntaxCause) (h : cause.Quotes lang) (a : α) :
    Quoting lang (atEnd cause a) := by
  intro input cause' rest hfailed
  cases input with
  | nil => nomatch hfailed
  | cons c input =>
    obtain ⟨rfl, _⟩ := Reading.failed.inj hfailed
    exact h

theorem assigned_quoting (lang : Language) (levels : Nat) (target : String) :
    Quoting lang (assigned lang levels target) := by
  intro input cause rest hfailed
  cases input with
  | nil => simp [assigned] at hfailed
  | cons c input =>
    rw [assigned] at hfailed
    split at hfailed
    · have hvalue := ((sum_quoting lang levels).orFail
        (.valueMissing lang.symbol) rfl).andThen
          fun value => atEnd_quoting .trailingAfterAssignment trivial (target, value)
      exact hvalue input cause rest hfailed
    · simp at hfailed

/-- The fault of a line quotes characters of the language only. -/
theorem line_quoting (lang : Language) (levels : Nat) : Quoting lang (line lang levels) := by
  have hassignment := name_quoting.andThen (assigned_quoting lang levels)
  have hexpression := ((sum_quoting lang levels).orFail .statementMissing trivial).andThen
    (atEnd_quoting .trailingInput trivial)
  exact (hassignment.map _).orElse (hexpression.map _)

end Grammar

/-! ## Rows of a report -/

namespace SyntaxCause.Quotes

variable {lang : Language} {cause : SyntaxCause}

theorem isBlank_of_mem_closers {c : Char} (h : c ∈ Language.closers) : Text.isBlank c = false := by
  simp only [Language.closers, List.mem_cons, List.not_mem_nil, or_false] at h
  rcases h with rfl | rfl | rfl <;> decide

theorem isBlank_of_expected (h : cause.Quotes lang) {c : Char} (hc : cause.expected = some c) :
    Text.isBlank c = false := by
  cases cause with
  | missing d =>
    obtain rfl := Option.some.inj hc
    exact isBlank_of_mem_closers h
  | _ => nomatch hc

/-- The wording of a cause fits into one row. -/
theorem unbroken_text (h : cause.Quotes lang) : Text.Unbroken cause.text := by
  cases cause with
  | missing c =>
    have hbefore : Text.Unbroken "Expected '" := by decide +kernel
    exact hbefore.quoted (isBlank_of_mem_closers h)
  | valueMissing c =>
    obtain rfl : c = lang.symbol := h
    have hbefore : Text.Unbroken "Expected an expression after '" := by decide +kernel
    exact hbefore.quoted lang.symbol_not_blank
  | operandMissing op => cases op <;> decide +kernel
  | _ => decide +kernel

end SyntaxCause.Quotes

/-- The rows that show a line and point at a place of it: none if the line is empty; else a row in
which the line follows a margin, and one with a caret alone, as many columns behind the margin. -/
inductive Pointer (w : List Char) (p : Nat) : List String → Prop where
  | nowhere (h : w = []) : Pointer w p []
  | caret (h : w ≠ []) {margin : List Char} {caret : String}
      (hshown : Text.columns ("Line:\t\t" ++ String.ofList w) = margin ++ w)
      (hcaret : Text.columns caret = List.replicate (margin.length + p) ' ' ++ ['^']) :
      Pointer w p ["Line:\t\t" ++ String.ofList w, caret]

/-- Two tabs reach as far as the label of a line with two tabs behind it. -/
theorem pointer_of_ne_nil {w : List Char} (hne : w ≠ []) (htab : '\t' ∉ w) (p : Nat) :
    Pointer w p ["Line:\t\t" ++ String.ofList w,
      "\t\t" ++ String.ofList (List.replicate p ' ') ++ "^"] := by
  refine .caret hne (Text.columns_append htab) ?_
  have hmargin : (Text.columns "Line:\t\t").length = 16 := by decide +kernel
  have hindent : Text.columns "\t\t" = List.replicate 16 ' ' := by decide +kernel
  have hspaces : '\t' ∉ List.replicate p ' ' ++ ['^'] := by simp [List.mem_replicate]
  have hrow : "\t\t" ++ String.ofList (List.replicate p ' ') ++ "^" =
      "\t\t" ++ String.ofList (List.replicate p ' ' ++ ['^']) := by
    simp [String.ofList_append, String.append_assoc]
  rw [hrow, Text.columns_append hspaces, hindent, hmargin, ← List.append_assoc,
    List.replicate_append_replicate]

/-- The row that says what was received. -/
def Location.receivedRow (l : Location) : String :=
  "Received:\t" ++ l.found.elim "<end of input>" fun c => "'" ++ c ++ "'"

/-- The row that says what was expected, if that is known. -/
def Location.expectedRow? (l : Location) : Option String :=
  l.expected.map fun c => "Expected:\t'" ++ c ++ "'"

theorem Location.rows_eq (l : Location) (text : String) :
    l.rows text =
      (if l.line.isEmpty then []
        else ["Line:\t\t" ++ l.line,
          "\t\t" ++ String.ofList (List.replicate l.position.toNat ' ') ++ "^"]) ++
      [l.receivedRow] ++ l.expectedRow?.toList ++ ["Message:\t" ++ text] := by
  unfold rows receivedRow expectedRow?
  cases l.found <;> cases l.expected <;> rfl

namespace SyntaxFault

variable {f : SyntaxFault}

/-- Where no character of the line is a tab, the report points at the place of the fault. -/
theorem exists_pointer (h : '\t' ∉ f.line) (text : String) :
    ∃ pointer, Pointer f.line f.position pointer ∧
      f.location.rows text = pointer ++ [f.location.receivedRow] ++
        f.location.expectedRow?.toList ++ ["Message:\t" ++ text] := by
  have hposition : f.location.position.toNat = f.position := Int.toNat_natCast f.position
  rw [Location.rows_eq, hposition]
  by_cases hline : f.line = []
  · have hempty : f.location.line.isEmpty = true := by simp [location, Location.ofIndex, hline]
    rw [if_pos hempty]
    exact ⟨[], .nowhere hline, rfl⟩
  · have hempty : ¬ f.location.line.isEmpty = true := by
      simpa [location, Location.ofIndex] using hline
    rw [if_neg hempty]
    exact ⟨_, pointer_of_ne_nil hline h f.position, rfl⟩

theorem location_found (f : SyntaxFault) :
    f.location.found = f.line[f.position]?.map fun c => c.toString := by
  simp [location, Location.ofIndex]

/-- The labels of the rows. -/
theorem unbroken_label :
    ∀ label ∈ ["Line:\t\t", "\t\t", "Received:\t", "Expected:\t'", "Message:\t"],
      Text.Unbroken label := by
  decide +kernel

/-- What is found at a place is not blank if the line has no blanks. -/
theorem unbroken_receivedRow (hline : ∀ c ∈ f.line, Text.isBlank c = false) :
    Text.Unbroken f.location.receivedRow := by
  rw [Location.receivedRow, location_found]
  refine (unbroken_label _ (by simp)).append ?_
  cases hc : f.line[f.position]? with
  | none => decide +kernel
  | some c =>
    have hquote : Text.Unbroken "'" := by decide +kernel
    exact hquote.quoted (hline c (List.mem_of_getElem? hc))

theorem unbroken_of_mem_expectedRow? {lang : Language} (hcause : f.cause.Quotes lang) {row : String}
    (h : f.location.expectedRow? = some row) : Text.Unbroken row := by
  obtain ⟨s, hs, rfl⟩ := Option.map_eq_some_iff.mp h
  obtain ⟨c, hc, rfl⟩ := Option.map_eq_some_iff.mp hs
  exact (unbroken_label _ (by simp)).quoted (hcause.isBlank_of_expected hc)

theorem unbroken_caretRow (p : Nat) :
    Text.Unbroken ("\t\t" ++ String.ofList (List.replicate p ' ') ++ "^") := by
  have hspaces : Text.Unbroken (String.ofList (List.replicate p ' ')) := by
    intro c hc
    rw [String.toList_ofList] at hc
    rw [List.eq_of_mem_replicate hc]
    decide
  exact ((unbroken_label _ (by simp)).append hspaces).append (by decide +kernel)

/-- Where neither the line nor the cause has a blank, no row of the report is broken. -/
theorem unbroken_of_mem_rows {lang : Language} (hline : ∀ c ∈ f.line, Text.isBlank c = false)
    (hcause : f.cause.Quotes lang) : ∀ row ∈ f.location.rows f.cause.text, Text.Unbroken row := by
  intro row hrow
  rw [Location.rows_eq] at hrow
  simp only [List.mem_append, List.mem_singleton, Option.mem_toList] at hrow
  rcases hrow with ((hpointer | rfl) | hexpected) | rfl
  · -- a space, unlike the line, is blank, so the caret row needs a reason of its own
    split at hpointer
    · nomatch hpointer
    · simp only [List.mem_cons, List.not_mem_nil, or_false] at hpointer
      rcases hpointer with rfl | rfl
      · exact (unbroken_label _ (by simp)).append (Text.unbroken_ofList hline)
      · exact unbroken_caretRow _
  · exact unbroken_receivedRow hline
  · exact unbroken_of_mem_expectedRow? hcause hexpected
  · exact (unbroken_label _ (by simp)).append hcause.unbroken_text

/-- A report has the rows that it is made of. -/
theorem rows_report {lang : Language} (hline : ∀ c ∈ f.line, Text.isBlank c = false)
    (hcause : f.cause.Quotes lang) :
    Text.rows f.diagnostic.report = f.location.rows f.cause.text := by
  have hrows : f.diagnostic.rows = f.location.rows f.cause.text := rfl
  have hne : f.location.rows f.cause.text ≠ [] := by
    rw [Location.rows_eq]
    exact List.append_ne_nil_of_right_ne_nil _ (by simp)
  rw [Diagnostic.report, hrows, Text.rows_intercalate hne (unbroken_of_mem_rows hline hcause)]

end SyntaxFault

/-- Reports point at the offending character. The fault of a line lies in the line without its blanks
or at its end, with the character that stands there. Its report has the row of the line and the row
with the caret unless the line is empty, the row of what was received, that of what was expected if a
character was, and that of the message; no other rows, and none of them is broken. With the tabs filled
up, the caret stands in the column of the offending character, or just behind the last one at the end of
the line. -/
theorem report_points_at_fault (lang : Language) (text : String) (f : SyntaxFault)
    (hparse : parse lang text = .error (.reading f)) :
    f.position ≤ (Text.compact text).length ∧
    ∃ l, f.diagnostic.location = some l ∧
      l.line = String.ofList (Text.compact text) ∧ l.position = f.position ∧
      (∀ h : f.position < (Text.compact text).length,
        l.found = some ((Text.compact text).get ⟨f.position, h⟩).toString) ∧
      (f.position = (Text.compact text).length → l.found = none) ∧
      l.expected = f.cause.expected.map (fun c => c.toString) ∧
      ∃ pointer, Pointer (Text.compact text) f.position pointer ∧
        Text.rows f.diagnostic.report = pointer ++ [l.receivedRow] ++ l.expectedRow?.toList ++
          ["Message:\t" ++ f.cause.text] ∧
        ∀ row ∈ Text.rows f.diagnostic.report, Text.Unbroken row := by
  obtain ⟨cause, rest, hline, hf⟩ := Grammar.parse_eq_error_iff.mp hparse
  have hw : f.line = Text.compact text := by rw [Fault.reading.inj hf, SyntaxFault.atRest]
  have hcause : f.cause.Quotes lang := by
    rw [Fault.reading.inj hf]
    exact Grammar.line_quoting lang Grammar.groupLimit _ cause rest hline
  have hposition : f.position ≤ (Text.compact text).length := by
    rw [Fault.reading.inj hf]
    exact Nat.sub_le _ _
  rw [← hw] at hposition ⊢
  have hblank : ∀ c ∈ f.line, Text.isBlank c = false :=
    fun c hc => Text.isBlank_of_mem_compact (hw ▸ hc)
  -- a tab is blank as well, so every character of the line takes one column
  have htab : '\t' ∉ f.line := fun hmem => absurd (hblank '\t' hmem) (by decide)
  obtain ⟨pointer, hpointer, hrows⟩ := SyntaxFault.exists_pointer htab f.cause.text
  have hreport := SyntaxFault.rows_report hblank hcause
  refine ⟨hposition, f.location, rfl, rfl, rfl, ?_, ?_, rfl, pointer, hpointer,
    hreport.trans hrows, ?_⟩
  · intro h
    rw [SyntaxFault.location_found, List.getElem?_eq_getElem h]
    rfl
  · intro h
    rw [SyntaxFault.location_found, List.getElem?_eq_none (Nat.le_of_eq h.symm)]
    rfl
  · rw [hreport]
    exact SyntaxFault.unbroken_of_mem_rows hblank hcause

/-- Between blanks, tabs and a line end, a parenthesis that is not closed is missed at the end of the
line without them: the caret stands behind the last character. -/
theorem report_points_at_missing_parenthesis :
    let f : SyntaxFault := ⟨['(', '1', '+', '2'], 4, .missing ')'⟩
    parse .standard "\t(1 +\t2\n" = .error (.reading f) ∧ f.location.found = none ∧
      ∃ pointer, Pointer ['(', '1', '+', '2'] 4 pointer ∧
        Text.rows f.diagnostic.report = pointer ++
          ["Received:\t<end of input>", "Expected:\t')'", "Message:\tExpected ')'"] := by
  intro f
  have hparse : parse .standard "\t(1 +\t2\n" = .error (.reading f) := by decide +kernel
  have hcompact : Text.compact "\t(1 +\t2\n" = ['(', '1', '+', '2'] := by decide +kernel
  obtain ⟨_, l, hl, _, _, _, hend, _, pointer, hpointer, hrows, _⟩ :=
    report_points_at_fault .standard _ f hparse
  obtain rfl : f.location = l := Option.some.inj hl
  rw [hcompact] at hpointer hend
  have hexpected : f.location.expectedRow? = some "Expected:\t')'" := by decide +kernel
  have hmessage : "Message:\t" ++ f.cause.text = "Message:\tExpected ')'" := by decide +kernel
  have hfound := hend rfl
  refine ⟨hparse, hfound, pointer, hpointer, ?_⟩
  rw [hrows, hexpected, hmessage, Location.receivedRow, hfound, List.append_assoc,
    List.append_assoc]
  rfl

end PlaneCalc

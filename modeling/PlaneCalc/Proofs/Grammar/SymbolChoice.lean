import Mathlib.Logic.Equiv.Basic
import PlaneCalc.Proofs.Grammar.Recognition

/-!
# The choice of the assignment symbol

Two languages differ in their assignment symbols only, and a symbol that can be chosen has no other
meaning. So if the two symbols are exchanged in a line, the second language reads the new line as the
first one read the old: the same things are found, and faults arise at the same places for the same
reasons. `Corresponds` states this for one rule, and the combinators keep it.
-/

namespace PlaneCalc

/-! ## Exchanging two symbols -/

/-- Whether a character has a meaning of its own in every language. -/
def isMeaningful (c : Char) : Bool :=
  c.isDigit || c.isLower || Text.isBlank c || reservedCharacters.contains c

theorem isMeaningful_of_isDigit {c : Char} (h : c.isDigit = true) : isMeaningful c = true := by
  simp [isMeaningful, h]

theorem isMeaningful_of_isLower {c : Char} (h : c.isLower = true) : isMeaningful c = true := by
  simp [isMeaningful, h]

theorem isMeaningful_of_isBlank {c : Char} (h : Text.isBlank c = true) :
    isMeaningful c = true := by
  simp [isMeaningful, h]

theorem isMeaningful_of_mem {c : Char} (h : c ∈ reservedCharacters) : isMeaningful c = true := by
  simp [isMeaningful, h]

theorem Operator.isMeaningful_symbol (op : Operator) : isMeaningful op.symbol = true :=
  isMeaningful_of_mem (by cases op <;> decide)

theorem Numeral.isMeaningful_of_mem_text {n : Numeral} (hn : n.Regular) :
    ∀ c ∈ n.text, isMeaningful c = true := by
  intro c hc
  rcases hn.mem_text hc with hd | rfl | rfl
  · exact isMeaningful_of_isDigit hd
  · decide
  · decide

namespace Language

/-- The assignment symbol has no meaning of its own. -/
theorem symbol_not_meaningful (lang : Language) : isMeaningful lang.symbol = false := by
  have hreserved : reservedCharacters.contains lang.symbol = false := by
    simpa using lang.symbol_not_reserved
  rw [isMeaningful, lang.symbol_not_isDigit, lang.symbol_not_isLower, lang.symbol_not_blank,
    hreserved]
  rfl

/-- The exchange of the assignment symbols of two languages. -/
def exchange (a b : Language) : Equiv.Perm Char := Equiv.swap a.symbol b.symbol

variable {a b : Language}

theorem exchange_symbol (a b : Language) : exchange a b a.symbol = b.symbol :=
  Equiv.swap_apply_left a.symbol b.symbol

theorem exchange_eq_symbol {c : Char} : exchange a b c = b.symbol ↔ c = a.symbol := by
  rw [← exchange_symbol a b, (exchange a b).apply_eq_iff_eq]

theorem exchange_of_meaningful {c : Char} (h : isMeaningful c = true) : exchange a b c = c := by
  refine Equiv.swap_apply_of_ne_of_ne ?_ ?_
  · rintro rfl
    simp [a.symbol_not_meaningful] at h
  · rintro rfl
    simp [b.symbol_not_meaningful] at h

/-- A character with a meaning comes from itself only. -/
theorem exchange_eq_iff {c d : Char} (h : isMeaningful d = true) :
    exchange a b c = d ↔ c = d := by
  conv_lhs => rw [← exchange_of_meaningful (a := a) (b := b) h]
  exact (exchange a b).apply_eq_iff_eq

/-- A class of characters with a meaning is kept. -/
theorem exchange_class {p : Char → Bool} (hp : ∀ c, p c = true → isMeaningful c = true)
    (c : Char) : p (exchange a b c) = p c := by
  rw [Bool.eq_iff_iff]
  constructor
  · intro h
    have hc : exchange a b c = c := ((exchange_eq_iff (hp _ h)).mp rfl).symm
    rwa [hc] at h
  · intro h
    rwa [exchange_of_meaningful (hp c h)]

theorem map_exchange {w : List Char} (h : ∀ c ∈ w, isMeaningful c = true) :
    w.map (exchange a b) = w := by
  have hself : w.map (exchange a b) = w.map id :=
    List.map_congr_left fun c hc => exchange_of_meaningful (h c hc)
  rw [hself, List.map_id]

theorem stops_exchange {p : Char → Bool} (hp : ∀ c, p c = true → isMeaningful c = true)
    {rest : List Char} (h : Stops p rest) : Stops p (rest.map (exchange a b)) := by
  cases rest with
  | nil => exact stops_nil
  | cons c rest =>
    rw [List.map_cons, stops_cons, exchange_class hp]
    exact stops_cons.mp h

/-- A name may end before the new rest exactly if it may end before the old. -/
theorem endsName_exchange (a b : Language) (rest : List Char) :
    b.endsName (rest.map (exchange a b)) = a.endsName rest := by
  cases rest with
  | nil => rfl
  | cons c rest =>
    have hfixed : ∀ d, ['+', '-', '*', '/', ')', ']', ','].contains d = true →
        isMeaningful d = true := by
      intro d hd
      refine isMeaningful_of_mem ?_
      simp only [List.contains_iff_mem, List.mem_cons, List.not_mem_nil, or_false] at hd
      rcases hd with rfl | rfl | rfl | rfl | rfl | rfl | rfl <;> decide
    have hclass := exchange_class (a := a) (b := b) hfixed c
    rw [Bool.eq_iff_iff, List.contains_iff_mem, List.contains_iff_mem] at hclass
    rw [List.map_cons, Bool.eq_iff_iff, endsName_cons, endsName_cons, hclass, exchange_eq_symbol]

end Language

theorem Text.compact_map_exchange (a b : Language) (line : String) :
    compact (line.map (a.exchange b)) = (compact line).map (a.exchange b) := by
  have hblank : (fun c => !isBlank c) ∘ a.exchange b = fun c => !isBlank c := by
    funext c
    show (!isBlank (a.exchange b c)) = !isBlank c
    rw [Language.exchange_class fun _ => isMeaningful_of_isBlank]
  rw [compact, String.toList_map, List.filter_map, hblank]
  rfl

/-! ## Readings of a line with its symbols exchanged -/

/-- The cause with the assignment symbol renamed. -/
def SyntaxCause.rename (σ : Char → Char) : SyntaxCause → SyntaxCause
  | valueMissing symbol => valueMissing (σ symbol)
  | cause => cause

theorem SyntaxCause.category_rename (σ : Char → Char) (cause : SyntaxCause) :
    (cause.rename σ).category = cause.category := by
  cases cause <;> rfl

theorem SyntaxCause.expected_rename (σ : Char → Char) (cause : SyntaxCause) :
    (cause.rename σ).expected = cause.expected := by
  cases cause <;> rfl

namespace Reading

variable {α β : Type} {σ : Char → Char}

/-- A reading with the characters of its rest renamed. -/
def rename (σ : Char → Char) : Reading α → Reading α
  | absent => absent
  | found a rest => found a (rest.map σ)
  | failed cause rest => failed (cause.rename σ) (rest.map σ)

/-- The second rule reads renamed input as the first one reads the input. -/
def Corresponds (σ : Char → Char) (rule rule' : List Char → Reading α) : Prop :=
  ∀ input, rule' (input.map σ) = (rule input).rename σ

theorem found_corresponds (a : α) : Corresponds σ (.found a) (.found a) := fun _ => rfl

theorem Corresponds.map {rule rule' : List Char → Reading α} (h : Corresponds σ rule rule')
    (f : α → β) :
    Corresponds σ (fun input => (rule input).map f) (fun input => (rule' input).map f) := by
  intro input
  show (rule' (input.map σ)).map f = ((rule input).map f).rename σ
  rw [h input]
  cases rule input <;> rfl

theorem Corresponds.orElse {rule rule' other other' : List Char → Reading α}
    (h : Corresponds σ rule rule') (ho : Corresponds σ other other') :
    Corresponds σ (fun input => (rule input).orElse fun _ => other input)
      (fun input => (rule' input).orElse fun _ => other' input) := by
  intro input
  show (rule' (input.map σ)).orElse (fun _ => other' (input.map σ)) =
    ((rule input).orElse fun _ => other input).rename σ
  rw [h input, ho input]
  cases rule input <;> rfl

theorem Corresponds.orFail {rule rule' : List Char → Reading α} (h : Corresponds σ rule rule')
    (cause : SyntaxCause) :
    Corresponds σ (fun input => (rule input).orFail cause input)
      (fun input => (rule' input).orFail (cause.rename σ) input) := by
  intro input
  show (rule' (input.map σ)).orFail (cause.rename σ) (input.map σ) =
    ((rule input).orFail cause input).rename σ
  rw [h input]
  cases rule input <;> rfl

theorem Corresponds.andThen {rule rule' : List Char → Reading α}
    {next next' : α → List Char → Reading β} (h : Corresponds σ rule rule')
    (hnext : ∀ a, Corresponds σ (next a) (next' a)) :
    Corresponds σ (fun input => (rule input).andThen next)
      (fun input => (rule' input).andThen next') := by
  intro input
  show (rule' (input.map σ)).andThen next' = ((rule input).andThen next).rename σ
  rw [h input]
  cases rule input with
  | absent => rfl
  | failed cause rest => rfl
  | found a rest => exact hnext a rest

end Reading

namespace Grammar

open Reading PlaneCalc.Language

variable {a b : Language}

/-! ## Atoms -/

theorem expect_corresponds {c : Char} (hc : isMeaningful c = true) :
    Corresponds (exchange a b) (expect c) (expect c) := by
  intro input
  cases input with
  | nil => rfl
  | cons d rest =>
    rw [List.map_cons, expect, expect]
    by_cases hd : d = c
    · rw [if_pos hd, if_pos ((exchange_eq_iff hc).mpr hd)]
      rfl
    · rw [if_neg hd, if_neg fun h => hd ((exchange_eq_iff hc).mp h)]
      rfl

theorem numeral_corresponds : Corresponds (exchange a b) Numeral.read Numeral.read := by
  intro input
  have hdigit : ∀ {rest}, Stops Char.isDigit rest →
      Stops Char.isDigit (rest.map (exchange a b)) :=
    stops_exchange fun c => isMeaningful_of_isDigit
  have hor : ∀ {d : Char}, isMeaningful d = true → ∀ c, (c.isDigit || c == d) = true →
      isMeaningful c = true := by
    intro d hd c hc
    rcases Bool.or_eq_true_iff.mp hc with hc | hc
    · exact isMeaningful_of_isDigit hc
    · rwa [beq_iff_eq.mp hc]
  have hsign : ∀ negative, (Numeral.sign negative).map (exchange a b) = Numeral.sign negative := by
    intro negative
    refine map_exchange fun c hc => ?_
    cases negative with
    | false => simp [Numeral.sign] at hc
    | true =>
      rw [List.mem_singleton.mp hc]
      decide
  have hrun := Numeral.run_read input
  refine Numeral.read_of_run ?_
  generalize Numeral.read input = r at hrun
  cases hrun with
  | absent h => exact .absent (stops_exchange (hor (by decide)) h)
  | signWithoutDigit h =>
    rw [List.map_cons, exchange_of_meaningful (by decide)]
    exact .signWithoutDigit (hdigit h)
  | leadingZero negative hd =>
    simp only [Reading.rename, List.map_append, List.map_cons, hsign,
      exchange_of_meaningful (show isMeaningful '0' = true by decide),
      exchange_of_meaningful (isMeaningful_of_isDigit hd)]
    exact .leadingZero negative hd
  | pointWithoutDigit negative hw h =>
    have hwhole := map_exchange (a := a) (b := b) fun c hc =>
      isMeaningful_of_isDigit (hw.digits c hc)
    simp only [Reading.rename, List.map_append, List.map_cons, hsign, hwhole,
      exchange_of_meaningful (show isMeaningful '.' = true by decide)]
    exact .pointWithoutDigit negative hw (hdigit h)
  | secondPoint hn hf =>
    simp only [Reading.rename, List.map_append, List.map_cons,
      map_exchange (Numeral.isMeaningful_of_mem_text hn),
      exchange_of_meaningful (show isMeaningful '.' = true by decide)]
    exact .secondPoint hn hf
  | found hn h =>
    rw [List.map_append, map_exchange (Numeral.isMeaningful_of_mem_text hn)]
    exact .found hn (stops_exchange (hor (by decide)) h)

theorem name_corresponds : Corresponds (exchange a b) (name a) (name b) := by
  intro input
  have hletters : ∀ {letters}, IsName letters → letters.map (exchange a b) = letters :=
    fun hn => map_exchange fun c hc => isMeaningful_of_isLower (hn.lower c hc)
  have hstops : ∀ {rest}, Stops Char.isLower rest →
      Stops Char.isLower (rest.map (exchange a b)) :=
    stops_exchange fun c => isMeaningful_of_isLower
  have hrun := nameRun_name a input
  refine name_of_nameRun ?_
  generalize name a input = r at hrun
  cases hrun with
  | absent h => exact .absent (hstops h)
  | runsOn hn h he =>
    rw [List.map_append, hletters hn]
    exact .runsOn hn (hstops h) (by rw [endsName_exchange, he])
  | found hn he =>
    rw [List.map_append, hletters hn]
    exact .found hn (by rw [endsName_exchange, he])

theorem component_corresponds : Corresponds (exchange a b) component component :=
  (numeral_corresponds.map Numeral.toDouble).orFail .componentMissing

theorem components_corresponds : Corresponds (exchange a b) components components := by
  refine component_corresponds.andThen fun x => ?_
  refine (expect_corresponds (by decide)).andThen fun _ => ?_
  refine component_corresponds.andThen fun y => ?_
  exact (expect_corresponds (by decide)).andThen fun _ => found_corresponds _

/-- A rule that one character with a meaning commits to its body. -/
theorem corresponds_afterHead {α : Type} {c : Char} (hc : isMeaningful c = true)
    {rule rule' body body' : List Char → Reading α} (h : Corresponds (exchange a b) body body')
    (hopen : ∀ rest, rule (c :: rest) = body rest) (hopen' : ∀ rest, rule' (c :: rest) = body' rest)
    (hother : ∀ input, (∀ rest, input ≠ c :: rest) → rule input = .absent)
    (hother' : ∀ input, (∀ rest, input ≠ c :: rest) → rule' input = .absent) :
    Corresponds (exchange a b) rule rule' := by
  intro input
  by_cases hinput : ∃ rest, input = c :: rest
  · obtain ⟨rest, rfl⟩ := hinput
    rw [List.map_cons, exchange_of_meaningful hc, hopen, hopen']
    exact h rest
  · rw [hother input fun rest hrest => hinput ⟨rest, hrest⟩]
    refine hother' _ ?_
    intro rest hrest
    obtain ⟨d, tail, rfl, hd, _⟩ := List.map_eq_cons_iff.mp hrest
    rw [exchange_eq_iff hc] at hd
    exact hinput ⟨tail, by rw [hd]⟩

theorem vector_corresponds : Corresponds (exchange a b) vector vector := by
  have hother : ∀ input, (∀ rest, input ≠ '[' :: rest) → vector input = .absent := by
    intro input h
    rw [vector]
    exact h
  exact corresponds_afterHead (c := '[') (by decide) components_corresponds (fun _ => rfl)
    (fun _ => rfl) hother hother

/-! ## Chains and groups -/

theorem ofSymbol?_exchange (operators : List Operator) (c : Char) :
    Operator.ofSymbol? operators (exchange a b c) = Operator.ofSymbol? operators c := by
  have hsame : ∀ op : Operator, decide (op.symbol = exchange a b c) = decide (op.symbol = c) := by
    intro op
    rw [decide_eq_decide, eq_comm, exchange_eq_iff op.isMeaningful_symbol, eq_comm]
  rw [Operator.ofSymbol?, Operator.ofSymbol?]
  simp only [hsame]

section

variable {operators : List Operator} {operand operand' : List Char → Reading Expr}

theorem links_corresponds (h : Corresponds (exchange a b) operand operand') (rounds : Nat)
    (left : Expr) :
    Corresponds (exchange a b) (links operators operand rounds left)
      (links operators operand' rounds left) := by
  induction rounds generalizing left with
  | zero => exact found_corresponds left
  | succ rounds ih =>
    intro input
    cases input with
    | nil => rfl
    | cons c rest =>
      rw [List.map_cons, links, links, ofSymbol?_exchange]
      cases Operator.ofSymbol? operators c with
      | none => rfl
      | some op =>
        exact (h.orFail (.operandMissing op)).andThen (fun right => ih (.binary op left right)) rest

theorem chain_corresponds (h : Corresponds (exchange a b) operand operand') :
    Corresponds (exchange a b) (chain operators operand) (chain operators operand') := by
  refine h.andThen fun first rest => ?_
  rw [List.length_map]
  exact links_corresponds h rest.length first rest

end

theorem sumWith_corresponds {inner inner' : List Char → Reading Expr}
    (h : Corresponds (exchange a b) inner inner') :
    Corresponds (exchange a b) (sumWith a inner) (sumWith b inner') := by
  have hterm : Corresponds (exchange a b) (termWith a inner) (termWith b inner') :=
    (numeral_corresponds.map _).orElse
      (vector_corresponds.orElse ((name_corresponds.map _).orElse h))
  exact chain_corresponds (chain_corresponds hterm)

theorem group_corresponds (levels : Nat) :
    Corresponds (exchange a b) (group a levels) (group b levels) := by
  induction levels with
  | zero =>
    have hdeep : Corresponds (exchange a b) (.failed .nestedTooDeeply : List Char → Reading Expr)
        (.failed .nestedTooDeeply) := fun _ => rfl
    exact corresponds_afterHead (c := '(') (by decide) hdeep (fun _ => rfl) (fun _ => rfl)
      (fun _ => group_of_ne_open a 0) fun _ => group_of_ne_open b 0
  | succ levels ih =>
    have hbody := ((sumWith_corresponds ih).orFail .groupEmpty).andThen fun e =>
      (expect_corresponds (a := a) (b := b) (c := ')') (by decide)).andThen fun _ =>
        found_corresponds e
    exact corresponds_afterHead (c := '(') (by decide) hbody (fun _ => rfl) (fun _ => rfl)
      (fun _ => group_of_ne_open a (levels + 1)) fun _ => group_of_ne_open b (levels + 1)

theorem sum_corresponds (levels : Nat) :
    Corresponds (exchange a b) (sum a levels) (sum b levels) :=
  sumWith_corresponds (group_corresponds levels)

/-! ## Lines -/

theorem atEnd_corresponds {α : Type} (σ : Char → Char) (cause : SyntaxCause) (x : α) :
    Corresponds σ (atEnd cause x) (atEnd (cause.rename σ) x) := by
  intro input
  cases input <;> rfl

theorem assigned_corresponds (levels : Nat) (target : String) :
    Corresponds (exchange a b) (assigned a levels target) (assigned b levels target) := by
  intro input
  cases input with
  | nil => rfl
  | cons c rest =>
    rw [List.map_cons, assigned, assigned]
    by_cases hc : c = a.symbol
    · have hvalue := ((sum_corresponds (a := a) (b := b) levels).orFail
        (.valueMissing a.symbol)).andThen fun value =>
          atEnd_corresponds (exchange a b) .trailingAfterAssignment (target, value)
      rw [SyntaxCause.rename, exchange_symbol] at hvalue
      rw [if_pos hc, if_pos (exchange_eq_symbol.mpr hc)]
      exact hvalue rest
    · rw [if_neg hc, if_neg fun h => hc (exchange_eq_symbol.mp h)]
      rfl

/-- A line is read in the second language as the line before the exchange in the first. -/
theorem line_corresponds (levels : Nat) :
    Corresponds (exchange a b) (line a levels) (line b levels) := by
  have hassignment := (name_corresponds (a := a) (b := b)).andThen (assigned_corresponds levels)
  have hexpression := ((sum_corresponds (a := a) (b := b) levels).orFail
    .statementMissing).andThen (atEnd_corresponds (exchange a b) .trailingInput)
  exact (hassignment.map _).orElse (hexpression.map _)

theorem map_exchange_toString (c : Char) :
    c.toString.map (exchange a b) = (exchange a b c).toString := by
  rw [← String.toList_inj, String.toList_map]
  simp

/-- Where two faults correspond, they stand at the same place with the same expected character, and
what is found there corresponds. -/
theorem location_atRest_exchange (w rest : List Char) (cause : SyntaxCause) :
    let f := SyntaxFault.atRest w rest cause
    let f' := SyntaxFault.atRest (w.map (exchange a b)) (rest.map (exchange a b))
      (cause.rename (exchange a b))
    f'.position = f.position ∧ f'.location.expected = f.location.expected ∧
      f'.location.found = f.location.found.map (String.map (exchange a b)) := by
  intro f f'
  have hposition : f'.position = f.position := by
    simp only [f, f', SyntaxFault.atRest, List.length_map]
  refine ⟨hposition, ?_, ?_⟩
  · show (SyntaxCause.expected (cause.rename _)).map _ = cause.expected.map _
    rw [cause.expected_rename]
  · simp only [SyntaxFault.location, Location.ofIndex, hposition, String.toList_ofList]
    show (w.map (exchange a b))[f.position]?.map _ = (w[f.position]?.map _).map _
    rw [List.getElem?_map]
    cases w[f.position]? with
    | none => rfl
    | some c => exact congrArg some (map_exchange_toString c).symm

/-- The grammar does not depend on the assignment symbol. If the symbols of two languages are
exchanged in a line, the second language reads the new line as the first one reads the old: either
both find the same statement, or both report a fault of the same category at the same place, with
the same expected character, and with found characters that correspond. -/
theorem symbol_choice_immaterial (a b : Language) (line : String) :
    (∃ s, parse a line = .ok s ∧ parse b (line.map (exchange a b)) = .ok s) ∨
    ∃ f f', parse a line = .error (.reading f) ∧
      parse b (line.map (exchange a b)) = .error (.reading f') ∧
      f'.cause = f.cause.rename (exchange a b) ∧
      f'.diagnostic.category = f.diagnostic.category ∧ f'.position = f.position ∧
      f'.location.expected = f.location.expected ∧
      f'.location.found = f.location.found.map (String.map (exchange a b)) := by
  have hline := line_corresponds (a := a) (b := b) groupLimit (Text.compact line)
  rw [← Text.compact_map_exchange] at hline
  cases hread : Grammar.line a groupLimit (Text.compact line) with
  | absent => exact absurd hread (line_ne_absent groupLimit _)
  | found s rest =>
    obtain rfl := line_found_rest hread
    rw [hread] at hline
    exact .inl ⟨s, parse_eq_ok_iff.mpr hread, parse_eq_ok_iff.mpr hline⟩
  | failed cause rest =>
    rw [hread] at hline
    refine .inr ⟨_, _, parse_eq_error_iff.mpr ⟨cause, rest, hread, rfl⟩,
      parse_eq_error_iff.mpr ⟨_, _, hline, rfl⟩, rfl, cause.category_rename _, ?_⟩
    rw [Text.compact_map_exchange]
    exact location_atRest_exchange _ rest cause

end Grammar

end PlaneCalc

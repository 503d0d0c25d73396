import PlaneCalc.Cursor
import PlaneCalc.Proofs.Grammar.Completeness

/-!
# Taking an atom off a line is exact

Wherever a cursor stands, a request for an atom ends in one of three ways, and the rest of the line
alone says in which: the first character begins no such atom, and nothing moves; or the atom stands
there, and the cursor passes over it and no further; or it has begun and cannot be completed, which is
a fault. `Recognises` states this for one kind of atom, given what its texts are and what may follow
them. `NumberToken`, `VectorToken` and `NameToken` say so for the three kinds, without reading anything.
-/

namespace PlaneCalc

/-! ## Numerals in front of a text -/

namespace Numeral

/-- The characters that begin a numeral. -/
def begins (c : Char) : Bool := c.isDigit || c == '-'

/-- The characters that a complete numeral does not go on with. -/
def goesOn (c : Char) : Bool := c.isDigit || c == '.'

/-- A numeral stands in front of the input and does not go on behind. -/
structure Heads (n : Numeral) (input more : List Char) : Prop where
  regular : n.Regular
  split : input = n.text ++ more
  ends : Stops goesOn more

/-- A numeral begins in front of the input, but none stands there. -/
def Malformed (input : List Char) : Prop :=
  ¬ Stops begins input ∧ ∀ n more, ¬ Heads n input more

theorem heads_iff {n : Numeral} {input more : List Char} :
    n.Heads input more ↔ read input = .found n more := by
  constructor
  · intro h
    rw [h.split]
    exact read_of_run (.found h.regular h.ends)
  · intro h
    have hrun := run_read input
    rw [h] at hrun
    cases hrun with
    | found hn hmore => exact ⟨hn, rfl, hmore⟩

theorem stops_begins_iff {input : List Char} : Stops begins input ↔ read input = .absent :=
  read_eq_absent.symm

theorem malformed_iff {input : List Char} :
    Malformed input ↔ ∃ cause rest, read input = .failed cause rest := by
  simp only [Malformed, stops_begins_iff, heads_iff]
  cases read input <;> simp

/-- Whatever goes wrong in a numeral makes it a malformed number. -/
theorem category_of_failed {input rest : List Char} {cause : SyntaxCause}
    (h : read input = .failed cause rest) : cause.category = .malformedNumber := by
  have hrun := run_read input
  rw [h] at hrun
  cases hrun <;> rfl

end Numeral

/-! ## What stands in front of a text -/

namespace Grammar

/-- A number by its text, the expression it stands for and what follows it. -/
def NumberToken (u : List Char) (e : Expr) (more : List Char) : Prop :=
  ∃ n : Numeral, n.Regular ∧ u = n.text ∧ e = .literal (.scalar n.toDouble) ∧
    Stops Numeral.goesOn more

/-- A vector; anything may follow it. -/
def VectorToken (u : List Char) (e : Expr) (_more : List Char) : Prop :=
  ∃ x y : Numeral, x.Regular ∧ y.Regular ∧ u = '[' :: (x.text ++ ',' :: (y.text ++ [']'])) ∧
    e = .literal (.vector x.toDouble y.toDouble)

/-- A name, with the end of the line or a character behind it that may follow a name. -/
def NameToken (lang : Language) (u : List Char) (e : Expr) (more : List Char) : Prop :=
  IsName u ∧ e = .reference (String.ofList u) ∧
    ∀ c ∈ more.head?, c ∈ ['+', '-', '*', '/', ')', ']', ','] ∨ c = lang.symbol

/-- A vector in which the first component that is no numeral begins like one. -/
def MalformedComponent (input : List Char) : Prop :=
  ∃ tail, input = '[' :: tail ∧ (Numeral.Malformed tail ∨
    ∃ x more, Numeral.Heads x tail (',' :: more) ∧ Numeral.Malformed more)

theorem number_eq_found_iff {input more : List Char} {e : Expr} :
    number input = .found e more ↔ ∃ u, input = u ++ more ∧ NumberToken u e more := by
  rw [number, Reading.map_eq_found]
  constructor
  · rintro ⟨n, hread, rfl⟩
    have hn := Numeral.heads_iff.mpr hread
    exact ⟨n.text, hn.split, n, hn.regular, rfl, rfl, hn.ends⟩
  · rintro ⟨_, rfl, n, hn, rfl, rfl, hmore⟩
    exact ⟨n, Numeral.heads_iff.mp ⟨hn, rfl, hmore⟩, rfl⟩

theorem endsName_iff {lang : Language} {more : List Char} :
    lang.endsName more = true ↔
      ∀ c ∈ more.head?, c ∈ ['+', '-', '*', '/', ')', ']', ','] ∨ c = lang.symbol := by
  cases more with
  | nil => simp [Language.endsName]
  | cons c more => simp [Language.endsName_cons]

theorem reference_eq_found_iff {lang : Language} {input more : List Char} {e : Expr} :
    reference lang input = .found e more ↔ ∃ u, input = u ++ more ∧ NameToken lang u e more := by
  rw [reference, Reading.map_eq_found]
  constructor
  · rintro ⟨target, hread, rfl⟩
    have hrun := nameRun_name lang input
    rw [hread] at hrun
    cases hrun with
    | found hn he => exact ⟨_, rfl, hn, rfl, endsName_iff.mp he⟩
  · rintro ⟨letters, rfl, hn, rfl, he⟩
    exact ⟨_, name_of_nameRun (.found hn (endsName_iff.mpr he)), rfl⟩

theorem reference_eq_absent_iff {lang : Language} {input : List Char} :
    reference lang input = .absent ↔ Stops Char.isLower input := by
  rw [reference, Reading.map_eq_absent, name_eq_absent]

/-- A name that runs on is a plain syntax error. -/
theorem category_of_reference_failed {lang : Language} {input rest : List Char}
    {cause : SyntaxCause} (h : reference lang input = .failed cause rest) :
    cause.category = .expressionSyntax := by
  have hrun := nameRun_name lang input
  rw [Reading.map_eq_failed.mp h] at hrun
  cases hrun with
  | runsOn _ _ _ => rfl

/-- What becomes of reading a vector, one constructor for each ending. -/
inductive VectorRun : List Char → Reading Expr → Prop where
  | absent {input : List Char} (h : Stops (· == '[') input) : VectorRun input .absent
  | firstMissing {tail : List Char} (hx : Numeral.read tail = .absent) :
      VectorRun ('[' :: tail) (.failed .componentMissing tail)
  | firstMalformed {tail rest : List Char} {cause : SyntaxCause}
      (hx : Numeral.read tail = .failed cause rest) : VectorRun ('[' :: tail) (.failed cause rest)
  | undivided {tail mid : List Char} {x : Numeral} (hx : Numeral.read tail = .found x mid)
      (h : ∀ more, mid ≠ ',' :: more) : VectorRun ('[' :: tail) (.failed (.missing ',') mid)
  | secondMissing {tail mid : List Char} {x : Numeral}
      (hx : Numeral.read tail = .found x (',' :: mid)) (hy : Numeral.read mid = .absent) :
      VectorRun ('[' :: tail) (.failed .componentMissing mid)
  | secondMalformed {tail mid rest : List Char} {x : Numeral} {cause : SyntaxCause}
      (hx : Numeral.read tail = .found x (',' :: mid)) (hy : Numeral.read mid = .failed cause rest) :
      VectorRun ('[' :: tail) (.failed cause rest)
  | unclosed {tail mid rest : List Char} {x y : Numeral}
      (hx : Numeral.read tail = .found x (',' :: mid)) (hy : Numeral.read mid = .found y rest)
      (h : ∀ more, rest ≠ ']' :: more) : VectorRun ('[' :: tail) (.failed (.missing ']') rest)
  | found {tail mid more : List Char} {x y : Numeral}
      (hx : Numeral.read tail = .found x (',' :: mid))
      (hy : Numeral.read mid = .found y (']' :: more)) :
      VectorRun ('[' :: tail) (.found (.literal (.vector x.toDouble y.toDouble)) more)

theorem component_of_read {input : List Char} {r : Reading Numeral} (h : Numeral.read input = r) :
    component input = (r.map Numeral.toDouble).orFail .componentMissing input := by
  rw [component, h]

/-- A certain character is there or it is missed. -/
theorem expect_cases (c : Char) (input : List Char) :
    (∃ more, input = c :: more ∧ expect c input = .found () more) ∨
      (∀ more, input ≠ c :: more) ∧ expect c input = .failed (.missing c) input := by
  by_cases h : ∃ more, input = c :: more
  · obtain ⟨more, rfl⟩ := h
    exact .inl ⟨more, rfl, expect_eq_found.mpr rfl⟩
  · have hother : ∀ more, input ≠ c :: more := fun more hmore => h ⟨more, hmore⟩
    exact .inr ⟨hother, expect_eq_failed.mpr ⟨rfl, rfl, hother⟩⟩

/-- Whatever happens behind the opening bracket is listed. -/
theorem vectorRun_components (tail : List Char) : VectorRun ('[' :: tail) (components tail) := by
  unfold components
  cases hx : Numeral.read tail with
  | absent =>
    rw [component_of_read hx]
    exact .firstMissing hx
  | failed cause rest =>
    rw [component_of_read hx]
    exact .firstMalformed hx
  | found x mid =>
    rw [component_of_read hx]
    show VectorRun _ ((expect ',' mid).andThen _)
    rcases expect_cases ',' mid with ⟨mid, rfl, hcomma⟩ | ⟨hother, hcomma⟩
    · rw [hcomma]
      show VectorRun _ ((component mid).andThen _)
      cases hy : Numeral.read mid with
      | absent =>
        rw [component_of_read hy]
        exact .secondMissing hx hy
      | failed cause rest =>
        rw [component_of_read hy]
        exact .secondMalformed hx hy
      | found y rest =>
        rw [component_of_read hy]
        show VectorRun _ ((expect ']' rest).andThen _)
        rcases expect_cases ']' rest with ⟨more, rfl, hclose⟩ | ⟨hother, hclose⟩
        · rw [hclose]
          exact .found hx hy
        · rw [hclose]
          exact .unclosed hx hy hother
    · rw [hcomma]
      exact .undivided hx hother

theorem stops_bracket_iff {input : List Char} :
    Stops (· == '[') input ↔ ∀ tail, input ≠ '[' :: tail := by
  cases input with
  | nil => simp [stops_nil]
  | cons c input => simp [stops_cons]

/-- Whatever happens when a vector is read is listed. -/
theorem vectorRun_vector (input : List Char) : VectorRun input (vector input) := by
  unfold vector
  split
  · exact vectorRun_components _
  · rename_i hother
    exact .absent (stops_bracket_iff.mpr hother)

theorem vector_eq_absent_iff {input : List Char} :
    vector input = .absent ↔ Stops (· == '[') input := by
  constructor
  · intro h
    have hrun := vectorRun_vector input
    rw [h] at hrun
    cases hrun with
    | absent h => exact h
  · intro h
    rw [vector]
    exact stops_bracket_iff.mp h

theorem vector_eq_found_iff {input more : List Char} {e : Expr} :
    vector input = .found e more ↔ ∃ u, input = u ++ more ∧ VectorToken u e more := by
  constructor
  · intro h
    have hrun := vectorRun_vector input
    rw [h] at hrun
    cases hrun with
    | @found tail mid _ x y hx hy =>
      have hfirst := Numeral.heads_iff.mpr hx
      have hsecond := Numeral.heads_iff.mpr hy
      refine ⟨'[' :: (x.text ++ ',' :: (y.text ++ [']'])), ?_, x, y, hfirst.regular,
        hsecond.regular, rfl, rfl⟩
      rw [hfirst.split, hsecond.split]
      simp
  · rintro ⟨_, rfl, x, y, hx, hy, rfl, rfl⟩
    simpa using vector_append hx hy more

/-- A vector is a malformed number where its first component that is no numeral begins like one, and
a plain syntax error everywhere else. -/
theorem category_of_vector_failed {input rest : List Char} {cause : SyntaxCause}
    (h : vector input = .failed cause rest) :
    (cause.category = .malformedNumber ↔ MalformedComponent input) ∧
      (¬ MalformedComponent input → cause.category = .expressionSyntax) := by
  have hrun := vectorRun_vector input
  rw [h] at hrun
  -- both components are given by how they are read, so the specification can be looked up
  have hspec : MalformedComponent input ↔ ∃ tail, input = '[' :: tail ∧
      ((∃ cause rest, Numeral.read tail = .failed cause rest) ∨
        ∃ x more, Numeral.read tail = .found x (',' :: more) ∧
          ∃ cause rest, Numeral.read more = .failed cause rest) := by
    simp only [MalformedComponent, Numeral.malformed_iff, Numeral.heads_iff]
  rw [hspec]
  cases hrun with
  | firstMissing hx => simp [hx, SyntaxCause.category]
  | firstMalformed hx => simp [hx, Numeral.category_of_failed hx]
  | undivided hx hother => simp [hx, hother, SyntaxCause.category]
  | secondMissing hx hy => simp [hx, hy, SyntaxCause.category]
  | @secondMalformed tail mid _ x _ hx hy =>
    have hcomponent : ∃ x more, Numeral.read tail = .found x (',' :: more) ∧
        ∃ cause rest, Numeral.read more = .failed cause rest := ⟨x, mid, hx, cause, rest, hy⟩
    simp [Numeral.category_of_failed hy, hcomponent]
  | unclosed hx hy hother => simp [hx, hy, SyntaxCause.category]

end Grammar

/-! ## Requests for atoms -/

namespace Cursor

open Grammar

/-- The cursor behind a text that it stood before. -/
def past (c : Cursor) (u : List Char) : Cursor := { c with pos := c.pos + u.length }

/-- How a cursor answers a request for atoms of one kind, by what stands behind it: an atom is absent
where no character of the class `begins` comes first, it is taken off exactly where its text stands
there as a token, which is then the only one, and it is refused everywhere else. -/
structure Recognises (lang : Language) (c : Cursor) (request : Request) (begins : Char → Bool)
    (token : List Char → Expr → List Char → Prop) : Prop where
  absent_iff : c.handle lang request = (.ok .nothing, c) ↔ Stops begins c.rest
  taken_iff : ∀ e c', c.handle lang request = (.ok (.tree e), c') ↔
    ∃ u more, c.rest = u ++ more ∧ token u e more ∧ c' = c.past u
  unique : ∀ u e more u' e' more', c.rest = u ++ more → token u e more →
    c.rest = u' ++ more' → token u' e' more' → u = u' ∧ e = e'
  refused_iff : (∃ d c', c.handle lang request = (.error d, c')) ↔
    ¬ Stops begins c.rest ∧ ∀ u e more, c.rest = u ++ more → ¬ token u e more

variable {lang : Language} {c : Cursor}

/-- Where something stood behind a cursor, the place of what is left is behind what was passed. -/
theorem atRest_eq_past {u more : List Char} (h : c.rest = u ++ more) (hne : c.rest ≠ []) :
    c.atRest more = c.past u := by
  have hlength := congrArg List.length h
  have hpos := List.length_pos_iff.mpr hne
  rw [rest, List.length_drop, List.length_append] at hlength
  rw [rest, List.length_drop] at hpos
  unfold atRest past
  congr 1
  omega

/-- An exact rule makes the answers exact. -/
theorem recognises_of_rule {request : Request} {rule : List Char → Reading Expr}
    {begins : Char → Bool} {token : List Char → Expr → List Char → Prop}
    (hhandle : c.handle lang request = c.afterReading (rule c.rest))
    (habsent : ∀ input, rule input = .absent ↔ Stops begins input)
    (hfound : ∀ input e more, rule input = .found e more ↔
      ∃ u, input = u ++ more ∧ token u e more) : Recognises lang c request begins token where
  absent_iff := by
    rw [hhandle, ← habsent]
    cases rule c.rest <;> simp [afterReading]
  taken_iff e c' := by
    have hne : ∀ {more}, rule c.rest = .found e more → c.rest ≠ [] := by
      intro more hread hnil
      rw [hnil, (habsent []).mpr stops_nil] at hread
      simp at hread
    rw [hhandle]
    constructor
    · intro h
      cases hread : rule c.rest with
      | absent => simp [hread, afterReading] at h
      | failed cause rest => simp [hread, afterReading] at h
      | found e' more =>
        obtain ⟨rfl, rfl⟩ : e' = e ∧ c.atRest more = c' := by simpa [hread, afterReading] using h
        obtain ⟨u, hu, htoken⟩ := (hfound _ _ _).mp hread
        exact ⟨u, more, hu, htoken, atRest_eq_past hu (hne hread)⟩
    · rintro ⟨u, more, hu, htoken, rfl⟩
      have hread := (hfound _ _ _).mpr ⟨u, hu, htoken⟩
      rw [hread, afterReading, atRest_eq_past hu (hne hread)]
  unique u e more u' e' more' hu htoken hu' htoken' := by
    have hread := (hfound _ _ _).mpr ⟨u, hu, htoken⟩
    rw [(hfound _ _ _).mpr ⟨u', hu', htoken'⟩, Reading.found.injEq] at hread
    obtain ⟨rfl, rfl⟩ := hread
    exact ⟨List.append_cancel_right (hu.symm.trans hu'), rfl⟩
  refused_iff := by
    have hnone : (∀ u e more, c.rest = u ++ more → ¬ token u e more) ↔
        ∀ e more, rule c.rest ≠ .found e more := by
      constructor
      · intro h e more hread
        obtain ⟨u, hu, htoken⟩ := (hfound _ _ _).mp hread
        exact h u e more hu htoken
      · intro h u e more hu htoken
        exact h e more ((hfound _ _ _).mpr ⟨u, hu, htoken⟩)
    rw [hhandle, hnone, ← habsent]
    cases rule c.rest <;> simp [afterReading]

/-- A refused atom is told with the category of its cause. -/
theorem category_of_refused {r : Reading Expr} {d : Diagnostic} {c' : Cursor}
    (h : c.afterReading r = (.error d, c')) :
    ∃ cause rest, r = .failed cause rest ∧ d.category = cause.category := by
  cases r with
  | absent => simp [afterReading] at h
  | found e rest => simp [afterReading] at h
  | failed cause rest =>
    rw [afterReading, Prod.mk.injEq, Except.error.injEq] at h
    obtain ⟨rfl, _⟩ := h
    exact ⟨cause, rest, rfl, rfl⟩

/-- Taking an atom off a line is exact, wherever the cursor stands. A number is absent where neither a
digit nor a minus sign comes next, is taken where a numeral stands there that does not go on with a
digit or a point, and is malformed everywhere else. A vector is absent where no bracket opens, and is
refused where it is none, as a malformed number exactly where the first component that fails begins like
one. A name is absent where no letter comes next, is taken with all its letters where something follows
that may follow a name, and is a syntax error everywhere else. -/
theorem atoms_taken_exactly (lang : Language) (c : Cursor) :
    (Recognises lang c .number Numeral.begins NumberToken ∧
      ∀ d c', c.handle lang .number = (.error d, c') → d.category = .malformedNumber) ∧
    (Recognises lang c .vector (· == '[') VectorToken ∧
      ∀ d c', c.handle lang .vector = (.error d, c') →
        (d.category = .malformedNumber ↔ MalformedComponent c.rest) ∧
          (¬ MalformedComponent c.rest → d.category = .expressionSyntax)) ∧
    (Recognises lang c .name Char.isLower (NameToken lang) ∧
      ∀ d c', c.handle lang .name = (.error d, c') → d.category = .expressionSyntax) := by
  refine ⟨⟨?_, ?_⟩, ⟨?_, ?_⟩, ?_, ?_⟩
  · refine recognises_of_rule rfl (fun input => ?_) fun _ _ _ => number_eq_found_iff
    rw [number, Reading.map_eq_absent, Numeral.stops_begins_iff]
  · intro d c' h
    obtain ⟨cause, rest, hread, hd⟩ := category_of_refused h
    rw [hd]
    exact Numeral.category_of_failed (Reading.map_eq_failed.mp hread)
  · exact recognises_of_rule rfl (fun _ => vector_eq_absent_iff) fun _ _ _ => vector_eq_found_iff
  · intro d c' h
    obtain ⟨cause, rest, hread, hd⟩ := category_of_refused h
    rw [hd]
    exact category_of_vector_failed hread
  · exact recognises_of_rule rfl (fun _ => reference_eq_absent_iff)
      fun _ _ _ => reference_eq_found_iff
  · intro d c' h
    obtain ⟨cause, rest, hread, hd⟩ := category_of_refused h
    rw [hd]
    exact category_of_reference_failed hread

/-- In the middle of a line a vector whose second component begins like a numeral and is none: it is a
malformed number, and where the bracket opens no number begins. -/
theorem atoms_taken_exactly_before_malformed_component :
    let c : Cursor := ⟨"x+[1,00]".toList, 2⟩
    let stop := c.atRest "00]".toList
    c.handle .standard .vector = (.error (stop.fault .leadingZero), stop) ∧
      MalformedComponent c.rest ∧ c.handle .standard .number = (.ok .nothing, c) := by
  intro c stop
  obtain ⟨⟨hnumber, -⟩, ⟨-, hvector⟩, -⟩ := atoms_taken_exactly .standard c
  have hrefused : c.handle .standard .vector = (.error (stop.fault .leadingZero), stop) := by
    decide +kernel
  refine ⟨hrefused, (hvector _ _ hrefused).1.mp rfl, hnumber.absent_iff.mpr ?_⟩
  show Stops Numeral.begins "[1,00]".toList
  simp [stops_cons, Numeral.begins]

end Cursor

end PlaneCalc

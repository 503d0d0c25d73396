import PlaneCalc.Proofs.Cursor.Walk

/-!
# Atoms with a cursor

Numbers, vectors and names as walks. A walk looks before it steps, so the cursor refuses nothing; it
remembers where an atom began and cuts its text out of the line, and what is cut out for a number is
the numeral that the rules of the grammar read there.
-/

namespace PlaneCalc

/-- Whether a reply is a character of a class. -/
def Reply.shows (p : Char → Bool) : Reply → Bool
  | character x => p x
  | _ => false

/-- The place that a reply gives; what is no place lies outside every line. -/
def Reply.place : Reply → Int
  | offset n => n
  | _ => -1

namespace Walk

open Cursor

variable {lang : Language} {done rest : List Char}

/-- Whether a request shows a character of a class. -/
def glance (lang : Language) (r : Request) (p : Char → Bool) : Walk Bool := do
  let reply ← ask lang r
  return reply.shows p

/-- The text from a place of the line up to the cursor. -/
def passed (start : Int) : Walk (List Char) := fun c =>
  (.ok ((c.data.take c.pos).drop start.toNat), c)

theorem glance_currentChar (lang : Language) (done rest : List Char) (x : Char) (p : Char → Bool) :
    glance lang .currentChar p (between done (x :: rest)) =
      (.ok (p x), between done (x :: rest)) :=
  bind_of_ok (ask_currentChar done rest x)

theorem glance_peekNext (lang : Language) (done rest : List Char) (x : Char) (p : Char → Bool) :
    glance lang .peekNext p (between done (x :: rest)) =
      (.ok (rest.head?.any p), between done (x :: rest)) := by
  cases rest with
  | nil =>
    have hnone : (between done [x]).handle lang .peekNext = (.ok .nothing, between done [x]) := by
      rw [handle, rest_between]
    exact bind_of_ok (ask_of_handle hnone)
  | cons y rest =>
    have hsome : (between done (x :: y :: rest)).handle lang .peekNext =
        (.ok (.character y), between done (x :: y :: rest)) := by
      rw [handle, rest_between]
    exact bind_of_ok (ask_of_handle hsome)

theorem passed_between (done w rest : List Char) :
    passed done.length (between (done ++ w) rest) = (.ok w, between (done ++ w) rest) := by
  have htake : ((done ++ w) ++ rest).take (done ++ w).length = done ++ w := List.take_left
  show (Except.ok ((((done ++ w) ++ rest).take (done ++ w).length).drop done.length), _) = _
  rw [htake, List.drop_left]

/-! ## Numerals -/

/-- The number that a text spells, which must be a numeral. -/
def legible (text : List Char) : Walk Double := fun c =>
  match Numeral.read text with
  | .found n [] => (.ok n.toDouble, c)
  | _ => (.error (.mishap (.illegible text)), c)

/-- An optional minus sign, before a digit. -/
def sign (lang : Language) : Walk Unit := do
  if ← test lang .isNegativeSign then
    let _ ← ask lang .advance
    demand lang .isDigit .signWithoutDigit
  else return ()

/-- A whole part must not begin with a superfluous zero. -/
def noLeadingZero (lang : Language) : Walk Unit := do
  if ← glance lang .currentChar (· = '0') then
    if ← glance lang .peekNext Char.isDigit then complain .leadingZero else return ()
  else return ()

/-- A fraction must not be followed by another one. -/
def noSecondPoint (lang : Language) : Walk Unit := do
  if ← test lang .isDecimalPoint then complain .secondPoint else return ()

/-- An optional fraction. -/
def fraction (lang : Language) : Walk Unit := do
  if ← test lang .isDecimalPoint then
    let _ ← ask lang .advance
    demand lang .isDigit .pointWithoutDigit
    skipAll lang .isDigit
    noSecondPoint lang
  else return ()

/-- The parts of a numeral in order. -/
def spelling (lang : Language) : Walk Unit := do
  sign lang
  noLeadingZero lang
  skipAll lang .isDigit
  fraction lang

/-- Whether a numeral begins here. -/
def numeralBegins (lang : Language) : Walk Bool := do
  if ← test lang .isDigit then return true else test lang .isNegativeSign

/-- The number of a numeral. -/
def numeral (lang : Language) : Walk (Option Double) := do
  if ← numeralBegins lang then
    let start ← ask lang .mark
    spelling lang
    let text ← passed start.place
    let number ← legible text
    return some number
  else return none

theorem legible_text {n : Numeral} (hn : n.Regular) (c : Cursor) :
    legible n.text c = (.ok n.toDouble, c) := by
  have hread : Numeral.read n.text = .found n [] := by
    have hrun := Numeral.read_of_run (Numeral.Run.found hn stops_nil)
    rwa [List.append_nil] at hrun
  rw [legible, hread]

/-- A sign before a digit is passed over. -/
theorem sign_append (lang : Language) (negative : Bool) {input : List Char}
    (hd : Numeral.startsWithDigit input = true) (done : List Char) :
    sign lang (between done (Numeral.sign negative ++ input)) =
      (.ok (), between (done ++ Numeral.sign negative) input) := by
  cases input with
  | nil => simp [Numeral.startsWithDigit] at hd
  | cons d input =>
    have hdigit : d.isDigit = true := hd
    cases negative with
    | true =>
      show sign lang (between done ('-' :: d :: input)) = (.ok (), between (done ++ ['-']) _)
      rw [sign, branch_of_true (test_of_cons senses_isNegativeSign (by decide) done _),
        bind_of_ok (ask_advance done (d :: input) '-')]
      exact demand_of_true (test_of_cons senses_isDigit hdigit _ input)
    | false =>
      have hminus : Stops (fun c => decide (c = '-')) (d :: input) := by
        rw [stops_cons, decide_eq_false_iff_not]
        rintro rfl
        exact absurd hdigit (by decide)
      show sign lang (between done (d :: input)) = (.ok (), between (done ++ []) (d :: input))
      rw [sign, branch_of_false (test_of_stops senses_isNegativeSign hminus done), List.append_nil]
      rfl

theorem sign_of_stops (h : Stops Char.isDigit rest) (done : List Char) :
    sign lang (between done ('-' :: rest)) =
      complain .signWithoutDigit (between (done ++ ['-']) rest) := by
  rw [sign, branch_of_true (test_of_cons senses_isNegativeSign (by decide) done rest),
    bind_of_ok (ask_advance done rest '-')]
  exact demand_of_false (test_of_stops senses_isDigit h _)

theorem noLeadingZero_of_zero {d : Char} (hd : d.isDigit = true) (done rest : List Char) :
    noLeadingZero lang (between done ('0' :: d :: rest)) =
      complain .leadingZero (between done ('0' :: d :: rest)) := by
  have hsecond := glance_peekNext lang done (d :: rest) '0' Char.isDigit
  rw [List.head?_cons, Option.any_some, hd] at hsecond
  rw [noLeadingZero, branch_of_true (glance_currentChar lang done (d :: rest) '0' _),
    branch_of_true hsecond]

/-- A whole part without a superfluous zero passes. -/
theorem noLeadingZero_of_isWhole {whole : List Char} (hw : IsWhole whole)
    (h : Stops Char.isDigit rest) (done : List Char) :
    noLeadingZero lang (between done (whole ++ rest)) = (.ok (), between done (whole ++ rest)) := by
  cases hw with
  | zero =>
    have hsecond := glance_peekNext lang done rest '0' Char.isDigit
    rw [any_head?_of_stops h] at hsecond
    rw [List.singleton_append, noLeadingZero,
      branch_of_true (glance_currentChar lang done rest '0' _), branch_of_false hsecond]
    rfl
  | @positive d ds hd h0 hds =>
    have hfirst := glance_currentChar lang done (ds ++ rest) d (· = '0')
    rw [decide_eq_false h0] at hfirst
    rw [List.cons_append, noLeadingZero, branch_of_false hfirst]
    rfl

/-- The sign and the whole part of a numeral are passed over. -/
theorem spelling_append (negative : Bool) {whole : List Char} (hw : IsWhole whole)
    (h : Stops Char.isDigit rest) (done : List Char) :
    spelling lang (between done (Numeral.sign negative ++ whole ++ rest)) =
      fraction lang (between (done ++ (Numeral.sign negative ++ whole)) rest) := by
  have hsign := sign_append lang negative (Numeral.startsWithDigit_whole hw rest) done
  rw [List.append_assoc, spelling, bind_of_ok hsign, bind_of_ok (noLeadingZero_of_isWhole hw h _),
    bind_of_ok (skipAll_between senses_isDigit hw.digits h _), List.append_assoc]

theorem noSecondPoint_of_stops (h : Stops (fun c => decide (c = '.')) rest) (done : List Char) :
    noSecondPoint lang (between done rest) = (.ok (), between done rest) :=
  branch_of_false (test_of_stops senses_isDecimalPoint h done)

theorem fraction_of_stops (h : Stops (fun c => decide (c = '.')) rest) (done : List Char) :
    fraction lang (between done rest) = (.ok (), between done rest) :=
  branch_of_false (test_of_stops senses_isDecimalPoint h done)

theorem fraction_of_pointWithoutDigit (h : Stops Char.isDigit rest) (done : List Char) :
    fraction lang (between done ('.' :: rest)) =
      complain .pointWithoutDigit (between (done ++ ['.']) rest) := by
  rw [fraction, branch_of_true (test_of_cons senses_isDecimalPoint (by decide) done rest),
    bind_of_ok (ask_advance done rest '.')]
  exact bind_of_error (demand_of_false (test_of_stops senses_isDigit h _))

/-- A fraction is passed over. -/
theorem fraction_append {digits : List Char} (hne : digits ≠ [])
    (hdigits : ∀ c ∈ digits, c.isDigit = true) (h : Stops Char.isDigit rest) (done : List Char) :
    fraction lang (between done ('.' :: digits ++ rest)) =
      noSecondPoint lang (between (done ++ '.' :: digits) rest) := by
  have hdigit : test lang .isDigit (between (done ++ ['.']) (digits ++ rest)) =
      (.ok true, between (done ++ ['.']) (digits ++ rest)) := by
    obtain ⟨d, ds, rfl⟩ := List.exists_cons_of_ne_nil hne
    exact test_of_cons senses_isDigit (hdigits d (by simp)) _ _
  rw [fraction, List.cons_append,
    branch_of_true (test_of_cons senses_isDecimalPoint (by decide) done _),
    bind_of_ok (ask_advance done (digits ++ rest) '.'), bind_of_ok (demand_of_true hdigit),
    bind_of_ok (skipAll_between senses_isDigit hdigits h _), List.append_assoc,
    List.singleton_append]

/-- A numeral is passed over; only one with a fraction may stand before a point. -/
theorem spelling_text {n : Numeral} (hn : n.Regular) (h : Stops Char.isDigit rest)
    (hf : n.fraction ≠ [] ∨ Stops (fun c => decide (c = '.')) rest) (done : List Char) :
    spelling lang (between done (n.text ++ rest)) =
      noSecondPoint lang (between (done ++ n.text) rest) := by
  obtain ⟨negative, whole, digits⟩ := n
  have hwhole : IsWhole whole := hn.whole
  by_cases hempty : digits = []
  · subst hempty
    have hpoint : Stops (fun c => decide (c = '.')) rest := hf.resolve_left fun hne => hne rfl
    rw [Numeral.text_integral, spelling_append negative hwhole h, fraction_of_stops hpoint,
      noSecondPoint_of_stops hpoint]
  · have hpoint : Stops Char.isDigit ('.' :: digits ++ rest) := stops_cons.mpr (by decide)
    rw [Numeral.text_fractional _ _ hempty, List.append_assoc _ ('.' :: digits),
      spelling_append negative hwhole hpoint, fraction_append hempty hn.fraction h,
      List.append_assoc done]

/-- The parts of a numeral lead where its reading ends. -/
theorem spelling_arrives (lang : Language) {input : List Char}
    (h : ¬ Stops (fun c => c.isDigit || c == '-') input) (done : List Char) :
    Arrives (spelling lang) done input ((Numeral.read input).map fun _ => ()) := by
  have hrun := Numeral.run_read input
  generalize Numeral.read input = r at hrun
  cases hrun with
  | absent habsent => exact absurd habsent h
  | signWithoutDigit hdigit =>
    exact .failed (w := ['-']) trivial rfl (bind_of_error (sign_of_stops hdigit done))
  | @leadingZero negative d rest hd =>
    refine .failed trivial rfl ?_
    rw [spelling, bind_of_ok (sign_append lang negative (by rfl) done)]
    exact bind_of_error (noLeadingZero_of_zero hd _ rest)
  | @pointWithoutDigit negative whole rest hw hdigit =>
    refine .failed (w := Numeral.sign negative ++ whole ++ ['.']) trivial (by simp) ?_
    rw [spelling_append negative hw (stops_cons.mpr (by decide)) done,
      fraction_of_pointWithoutDigit hdigit, List.append_assoc done]
  | @secondPoint n hn hf rest =>
    refine .failed trivial rfl ?_
    rw [spelling_text hn (stops_cons.mpr (by decide)) (.inl hf)]
    exact branch_of_true (test_of_cons senses_isDecimalPoint (by decide) _ rest)
  | @found n hn rest hstops =>
    obtain ⟨hdigit, hpoint⟩ := hstops.of_or
    refine .found rfl ?_
    rw [spelling_text hn hdigit (.inr hpoint), noSecondPoint_of_stops hpoint]

theorem numeralBegins_of_stops {input : List Char}
    (h : Stops (fun c => c.isDigit || c == '-') input) (done : List Char) :
    numeralBegins lang (between done input) = (.ok false, between done input) := by
  obtain ⟨hdigit, hminus⟩ := h.of_or
  rw [numeralBegins, branch_of_false (test_of_stops senses_isDigit hdigit done),
    test_of_stops senses_isNegativeSign hminus]

theorem numeralBegins_of_not_stops {input : List Char}
    (h : ¬ Stops (fun c => c.isDigit || c == '-') input) (done : List Char) :
    numeralBegins lang (between done input) = (.ok true, between done input) := by
  cases input with
  | nil => exact absurd stops_nil h
  | cons c input =>
    rw [stops_cons, Bool.not_eq_false, Bool.or_eq_true] at h
    by_cases hd : c.isDigit = true
    · rw [numeralBegins, branch_of_true (test_of_cons senses_isDigit hd done input)]
      rfl
    · have hminus : decide (c = '-') = true := h.resolve_left hd
      rw [numeralBegins, branch_of_false (test_of_stops senses_isDigit
        (stops_cons.mpr (by simpa using hd)) done), test_of_cons senses_isNegativeSign hminus]

/-- The text that was passed over is the numeral that was read, so its number is too. -/
theorem numeral_follows :
    Follows (numeral lang) (fun input => (Numeral.read input).map Numeral.toDouble) := by
  intro done input
  by_cases h : Stops (fun c => c.isDigit || c == '-') input
  · show Finds _ _ _ ((Numeral.read input).map _)
    rw [Numeral.read_eq_absent.mpr h]
    exact .absent (branch_of_false (numeralBegins_of_stops h done))
  · have hbegins : numeral lang (between done input) =
        (spelling lang >>= fun _ => passed done.length >>= fun text =>
          legible text >>= fun number => pure (some number)) (between done input) :=
      branch_of_true (numeralBegins_of_not_stops h done)
    have harrives := spelling_arrives lang h done
    have hrun := Numeral.run_read input
    show Finds _ _ _ ((Numeral.read input).map _)
    generalize Numeral.read input = r at hrun harrives
    cases r with
    | absent => nomatch harrives
    | failed cause rest =>
      cases harrives with
      | failed hcause hw hspelling =>
        exact .failed hcause hw (hbegins.trans (bind_of_error hspelling))
    | found n rest =>
      cases harrives with
      | @found w _ _ hw hspelling =>
        cases hrun with
        | found hn _ =>
          -- what was passed and what was read end at the same rest, so they are one text
          obtain rfl := List.append_cancel_right hw
          refine .found rfl ?_
          rw [hbegins, bind_of_ok hspelling, bind_of_ok (passed_between done _ rest),
            bind_of_ok (legible_text hn _)]
          rfl

/-! ## Numbers, vectors and names -/

/-- A number. -/
def number (lang : Language) : Walk (Option Expr) :=
  (numeral lang).andThen fun x => return .literal (.scalar x)

/-- A component of a vector. -/
def component (lang : Language) : Walk Double := (numeral lang).orFail .componentMissing

/-- The components of a vector up to its closing bracket. -/
def components (lang : Language) : Walk Expr := do
  let x ← component lang
  expect lang ','
  let y ← component lang
  expect lang ']'
  return .literal (.vector x y)

/-- A vector. -/
def vector (lang : Language) : Walk (Option Expr) := after lang '[' (components lang)

/-- Whether a name may end here; the character is looked at only if there is one. -/
def nameEnds (lang : Language) : Walk Bool := do
  if ← test lang .atEnd then return true
  else if ← test lang .isOperator then return true
  else glance lang .currentChar Language.closers.contains

/-- A name. -/
def name (lang : Language) : Walk (Option String) := do
  if ← test lang .isLetter then
    let start ← ask lang .mark
    skipAll lang .isLetter
    if ← nameEnds lang then
      let letters ← passed start.place
      return some (String.ofList letters)
    else complain .nameRunsOn
  else return none

/-- A reference to a variable. -/
def reference (lang : Language) : Walk (Option Expr) :=
  (name lang).andThen fun n => return .reference n

theorem number_follows : Follows (number lang) Grammar.number := by
  have hmap : Grammar.number = fun input =>
      ((Numeral.read input).map Numeral.toDouble).map fun x => Expr.literal (.scalar x) := by
    funext input
    rw [Grammar.number]
    cases Numeral.read input <;> rfl
  rw [hmap]
  exact numeral_follows.map _

theorem component_leads : Leads (component lang) Grammar.component :=
  numeral_follows.orFail .componentMissing trivial

theorem components_leads : Leads (components lang) Grammar.components :=
  component_leads.bind fun _ => (expect_leads lang ',').bind fun _ =>
    component_leads.bind fun _ => (expect_leads lang ']').bind fun _ => leads_pure _

theorem vector_follows : Follows (vector lang) Grammar.vector := by
  refine follows_after components_leads (fun rest => rfl) ?_
  intro input hother
  rw [Grammar.vector]
  exact fun rest hrest => hother rest hrest

theorem nameEnds_between (lang : Language) (done rest : List Char) :
    nameEnds lang (between done rest) = (.ok (lang.endsName rest), between done rest) := by
  cases rest with
  | nil => exact branch_of_true (test_atEnd done [])
  | cons c rest =>
    rw [nameEnds, branch_of_false (test_atEnd done (c :: rest))]
    by_cases hop : lang.operators.contains c = true
    · rw [branch_of_true (test_of_cons senses_isOperator hop done rest), Language.endsName, hop]
      rfl
    · have hno : lang.operators.contains c = false := by simpa using hop
      rw [branch_of_false (test_of_stops senses_isOperator (stops_cons.mpr hno) done),
        glance_currentChar, Language.endsName, hno, Bool.false_or]

/-- The letters of a name are passed over before a look at what follows them. -/
theorem name_append {letters : List Char} (hn : Grammar.IsName letters)
    (h : Stops Char.isLower rest) (done : List Char) :
    name lang (between done (letters ++ rest)) =
      if lang.endsName rest then
        (.ok (some (String.ofList letters)), between (done ++ letters) rest)
      else complain .nameRunsOn (between (done ++ letters) rest) := by
  have hletter : test lang .isLetter (between done (letters ++ rest)) =
      (.ok true, between done (letters ++ rest)) := by
    obtain ⟨c, letters, rfl⟩ := List.exists_cons_of_ne_nil hn.ne_nil
    exact test_of_cons senses_isLetter (hn.lower c (by simp)) _ _
  have hends := nameEnds_between lang (done ++ letters) rest
  rw [name, branch_of_true hletter, bind_of_ok (ask_mark done _),
    bind_of_ok (skipAll_between senses_isLetter hn.lower h done)]
  cases he : lang.endsName rest with
  | true =>
    rw [he] at hends
    rw [branch_of_true hends]
    exact bind_of_ok (passed_between done letters rest)
  | false =>
    rw [he] at hends
    rw [branch_of_false hends]
    rfl

theorem name_follows (lang : Language) : Follows (name lang) (Grammar.name lang) := by
  intro done input
  have hrun := Grammar.nameRun_name lang input
  generalize Grammar.name lang input = r at hrun
  cases hrun with
  | absent h => exact .absent (branch_of_false (test_of_stops senses_isLetter h done))
  | @runsOn letters rest hn h he =>
    refine .failed trivial rfl ?_
    rw [name_append hn h, if_neg (by simp [he])]
  | @found letters rest hn he =>
    refine .found rfl ?_
    rw [name_append hn (Language.stops_isLower he), if_pos he]

theorem reference_follows : Follows (reference lang) (Grammar.reference lang) :=
  (name_follows lang).map _

end Walk

end PlaneCalc

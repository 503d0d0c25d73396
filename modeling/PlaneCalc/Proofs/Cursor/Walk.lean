import PlaneCalc.Cursor
import PlaneCalc.Proofs.Grammar.Lookahead

/-!
# Walks of a cursor

A walk reads a line by asking a cursor, one request after the other. In contrast to the rules of the
grammar, which take their input apart, a walk can go wrong in ways that have nothing to do with the
line: the cursor may refuse to step past the end or to go back to a place outside the line, a loop
may not end, and a text that is taken for a number may be none. Such a `Mishap` is an outcome of its
own.

`Follows` and `Leads` say that a walk does what a rule does: it ends with the same answer where the
rest of the rule begins, and in particular without a mishap. A walk that follows a rule may find
nothing, and then stands where it began; one that leads has an answer wherever it begins.
-/

namespace PlaneCalc

/-- What must not happen while a line is run. -/
inductive Mishap where
  /-- The cursor refuses a request. -/
  | refused (answer : Diagnostic)
  /-- A loop takes more rounds than there are characters. -/
  | endless
  /-- A text is taken for a number that is no numeral. -/
  | illegible (text : List Char)
  /-- A number is divided by zero. -/
  | zeroDivisor

/-- Why a run stops without a result: for a fault of the line, or for a mishap. -/
inductive Halt where
  | fault (f : Fault)
  | mishap (m : Mishap)

/-- A cause that lies in the line, and not in a request that goes past its end. -/
def SyntaxCause.OfLine : SyntaxCause → Prop
  | endOfInput => False
  | stepPastEnd => False
  | _ => True

/-- A way over the line, from one place of the cursor to another. -/
def Walk (α : Type) : Type := Cursor → Except Halt α × Cursor

namespace Walk

variable {α β : Type}

instance : Monad Walk where
  pure a := fun c => (.ok a, c)
  bind walk next := fun c =>
    match walk c with
    | (.ok a, c') => next a c'
    | (.error h, c') => (.error h, c')

theorem bind_of_ok {walk : Walk α} {next : α → Walk β} {c c' : Cursor} {a : α}
    (h : walk c = (.ok a, c')) : (walk >>= next) c = next a c' := by
  show (match walk c with
    | (.ok a, c') => next a c'
    | (.error h, c') => (.error h, c')) = _
  rw [h]

theorem bind_of_error {walk : Walk α} {next : α → Walk β} {c c' : Cursor} {e : Halt}
    (h : walk c = (.error e, c')) : (walk >>= next) c = (.error e, c') := by
  show (match walk c with
    | (.ok a, c') => next a c'
    | (.error h, c') => (.error h, c')) = _
  rw [h]

theorem branch_of_true {question : Walk Bool} {yes no : Walk α} {c c' : Cursor}
    (h : question c = (.ok true, c')) : (do if ← question then yes else no) c = yes c' :=
  bind_of_ok h

theorem branch_of_false {question : Walk Bool} {yes no : Walk α} {c c' : Cursor}
    (h : question c = (.ok false, c')) : (do if ← question then yes else no) c = no c' :=
  bind_of_ok h

/-! ## Steps -/

/-- A request to the cursor, which must not be refused. -/
def ask (lang : Language) (r : Request) : Walk Reply := fun c =>
  match c.handle lang r with
  | (.ok reply, c') => (.ok reply, c')
  | (.error d, c') => (.error (.mishap (.refused d)), c')

/-- A question that is answered by yes or no. -/
def test (lang : Language) (r : Request) : Walk Bool := do
  let reply ← ask lang r
  return decide (reply = .flag true)

/-- A fault at the cursor. -/
def complain (cause : SyntaxCause) : Walk α := fun c =>
  (.error (.fault (.reading ⟨c.data, c.pos, cause⟩)), c)

/-- A fault unless a question is answered by yes. -/
def demand (lang : Language) (r : Request) (cause : SyntaxCause) : Walk Unit := do
  if ← test lang r then return () else complain cause

/-- A fault where a walk found nothing. -/
def orFail (walk : Walk (Option α)) (cause : SyntaxCause) : Walk α := do
  match ← walk with
  | some a => return a
  | none => complain cause

/-- Another walk where one found nothing. -/
def orElse (walk other : Walk (Option α)) : Walk (Option α) := do
  match ← walk with
  | some a => return some a
  | none => other

/-- Go on after something was found. -/
def andThen (walk : Walk (Option α)) (next : α → Walk β) : Walk (Option β) := do
  match ← walk with
  | some a => return some (← next a)
  | none => return none

/-- A walk that begins with one certain character, or not at all. -/
def after (lang : Language) (first : Char) (body : Walk α) : Walk (Option α) := do
  if ← test lang (.matchChar first.toString) then return some (← body) else return none

/-- One certain character. -/
def expect (lang : Language) (c : Char) : Walk Unit :=
  demand lang (.matchChar c.toString) (.missing c)

/-- Steps while a question is answered by yes. -/
def skip (lang : Language) (r : Request) : Nat → Walk Unit
  | 0 => fun c => (.error (.mishap .endless), c)
  | rounds + 1 => do
    if ← test lang r then
      let _ ← ask lang .advance
      skip lang r rounds
    else return ()

/-- Steps while a question is answered by yes, one for each character that is left and one to notice
the end. -/
def skipAll (lang : Language) (r : Request) : Walk Unit := fun c =>
  skip lang r (c.rest.length + 1) c

end Walk

/-! ## A cursor between two parts of the line -/

/-- A cursor with one part of the line behind it and the other before it. -/
def Cursor.between (done rest : List Char) : Cursor := ⟨done ++ rest, done.length⟩

namespace Cursor

theorem rest_between (done rest : List Char) : (between done rest).rest = rest :=
  List.drop_left

theorem sees_between (done rest : List Char) (p : Char → Bool) :
    (between done rest).sees p = rest.head?.any p := by
  rw [sees, rest_between]

theorem step_between (done rest : List Char) (x : Char) :
    (⟨done ++ x :: rest, done.length + 1⟩ : Cursor) = between (done ++ [x]) rest := by
  simp [between]

theorem between_take_rest {c : Cursor} (h : c.pos ≤ c.data.length) :
    between (c.data.take c.pos) c.rest = c := by
  simp [between, rest, h]

theorem between_append (done w rest : List Char) :
    between (done ++ w) rest = ⟨(between done (w ++ rest)).data, done.length + w.length⟩ := by
  simp [between]

end Cursor

namespace Walk

open Cursor

variable {α β : Type} {lang : Language} {rest : List Char}

theorem ask_of_handle {r : Request} {c c' : Cursor} {reply : Reply}
    (h : c.handle lang r = (.ok reply, c')) : ask lang r c = (.ok reply, c') := by
  rw [ask, h]

theorem test_of_handle {r : Request} {c c' : Cursor} {b : Bool}
    (h : c.handle lang r = (.ok (.flag b), c')) : test lang r c = (.ok b, c') := by
  rw [test, bind_of_ok (ask_of_handle h)]
  cases b <;> rfl

/-- A request that asks whether the next character is of some class. -/
def Senses (lang : Language) (r : Request) (p : Char → Bool) : Prop :=
  ∀ c : Cursor, c.handle lang r = (.ok (.flag (c.sees p)), c)

theorem senses_isDigit : Senses lang .isDigit Char.isDigit := fun _ => rfl

theorem senses_isLetter : Senses lang .isLetter Char.isLower := fun _ => rfl

theorem senses_isNegativeSign : Senses lang .isNegativeSign (· = '-') := fun _ => rfl

theorem senses_isDecimalPoint : Senses lang .isDecimalPoint (· = '.') := fun _ => rfl

theorem senses_isOperator : Senses lang .isOperator lang.operators.contains := fun _ => rfl

theorem test_of_senses {r : Request} {p : Char → Bool} (h : Senses lang r p)
    (done rest : List Char) :
    test lang r (between done rest) = (.ok (rest.head?.any p), between done rest) := by
  refine test_of_handle ?_
  rw [h, sees_between]

theorem any_head?_of_stops {p : Char → Bool} (h : Stops p rest) : rest.head?.any p = false := by
  cases rest with
  | nil => rfl
  | cons c rest => rw [List.head?_cons, Option.any_some, stops_cons.mp h]

theorem test_of_stops {r : Request} {p : Char → Bool} (h : Senses lang r p)
    (hstops : Stops p rest) (done : List Char) :
    test lang r (between done rest) = (.ok false, between done rest) := by
  rw [test_of_senses h, any_head?_of_stops hstops]

theorem test_of_cons {r : Request} {p : Char → Bool} (h : Senses lang r p) {x : Char}
    (hx : p x = true) (done rest : List Char) :
    test lang r (between done (x :: rest)) = (.ok true, between done (x :: rest)) := by
  rw [test_of_senses h, List.head?_cons, Option.any_some, hx]

theorem test_atEnd (done rest : List Char) :
    test lang .atEnd (between done rest) = (.ok rest.isEmpty, between done rest) := by
  refine test_of_handle ?_
  rw [handle, rest_between]

theorem ask_advance (done rest : List Char) (x : Char) :
    ask lang .advance (between done (x :: rest)) = (.ok .nothing, between (done ++ [x]) rest) := by
  refine ask_of_handle ?_
  rw [handle, rest_between]
  exact congrArg (Prod.mk _) (step_between done rest x)

theorem ask_currentChar (done rest : List Char) (x : Char) :
    ask lang .currentChar (between done (x :: rest)) =
      (.ok (.character x), between done (x :: rest)) := by
  refine ask_of_handle ?_
  rw [handle, rest_between]

theorem ask_mark (done rest : List Char) :
    ask lang .mark (between done rest) = (.ok (.offset done.length), between done rest) := rfl

/-- A place that was passed lies inside the line, so the cursor goes back to it. -/
theorem ask_resetTo (done passed rest : List Char) :
    ask lang (.resetTo done.length) (between (done ++ passed) rest) =
      (.ok .nothing, between done (passed ++ rest)) := by
  refine ask_of_handle ?_
  have hrange : (0 : Int) ≤ done.length ∧
      (done.length : Int) ≤ (between (done ++ passed) rest).data.length := by
    simp only [between, List.length_append]
    omega
  rw [handle, if_pos hrange]
  simp [between]

theorem test_matchChar_self (done rest : List Char) (c : Char) :
    test lang (.matchChar c.toString) (between done (c :: rest)) =
      (.ok true, between (done ++ [c]) rest) := by
  refine test_of_handle ?_
  rw [handle, rest_between]
  show (if c.toString = c.toString then _ else _) = _
  rw [if_pos rfl]
  exact congrArg (Prod.mk _) (step_between done rest c)

theorem test_matchChar_of_ne {c : Char} {input : List Char} (h : ∀ rest, input ≠ c :: rest)
    (done : List Char) :
    test lang (.matchChar c.toString) (between done input) = (.ok false, between done input) := by
  refine test_of_handle ?_
  rw [handle, rest_between]
  cases input with
  | nil => rfl
  | cons x rest =>
    show (if x.toString = c.toString then _ else _) = _
    rw [if_neg]
    intro hx
    exact h rest (by rw [String.singleton_inj.mp hx])

/-- A class of characters is passed over, up to the first character that is not of the class. -/
theorem skip_between {r : Request} {p : Char → Bool} (h : Senses lang r p) {w : List Char}
    (hw : ∀ c ∈ w, p c = true) (hrest : Stops p rest) {rounds : Nat} (hrounds : w.length < rounds)
    (done : List Char) :
    skip lang r rounds (between done (w ++ rest)) = (.ok (), between (done ++ w) rest) := by
  induction rounds generalizing w done with
  | zero => omega
  | succ rounds ih =>
    cases w with
    | nil =>
      rw [skip, List.nil_append, branch_of_false (test_of_stops h hrest done), List.append_nil]
      rfl
    | cons x w =>
      have hx : p x = true := hw x (by simp)
      have hround := ih (w := w) (fun c hc => hw c (by simp [hc]))
        (by rw [List.length_cons] at hrounds; omega) (done ++ [x])
      rw [skip, List.cons_append, branch_of_true (test_of_cons h hx done (w ++ rest)),
        bind_of_ok (ask_advance done (w ++ rest) x), hround, List.append_assoc,
        List.singleton_append]

theorem skipAll_between {r : Request} {p : Char → Bool} (h : Senses lang r p) {w : List Char}
    (hw : ∀ c ∈ w, p c = true) (hrest : Stops p rest) (done : List Char) :
    skipAll lang r (between done (w ++ rest)) = (.ok (), between (done ++ w) rest) := by
  refine skip_between h hw hrest ?_ done
  rw [rest_between, List.length_append]
  omega

/-! ## Walks that do what a rule does -/

/-- From a place of the line, the walk goes where a reading ended and has the same answer. -/
inductive Arrives (walk : Walk α) (done input : List Char) : Reading α → Prop where
  | found {w rest : List Char} {a : α} (hw : input = w ++ rest)
      (h : walk (between done input) = (.ok a, between (done ++ w) rest)) :
      Arrives walk done input (.found a rest)
  | failed {w rest : List Char} {cause : SyntaxCause} (hcause : cause.OfLine)
      (hw : input = w ++ rest)
      (h : walk (between done input) = complain cause (between (done ++ w) rest)) :
      Arrives walk done input (.failed cause rest)

/-- The same for a walk that may find nothing; it then stands where it began. -/
inductive Finds (walk : Walk (Option α)) (done input : List Char) : Reading α → Prop where
  | absent (h : walk (between done input) = (.ok none, between done input)) :
      Finds walk done input .absent
  | found {w rest : List Char} {a : α} (hw : input = w ++ rest)
      (h : walk (between done input) = (.ok (some a), between (done ++ w) rest)) :
      Finds walk done input (.found a rest)
  | failed {w rest : List Char} {cause : SyntaxCause} (hcause : cause.OfLine)
      (hw : input = w ++ rest)
      (h : walk (between done input) = complain cause (between (done ++ w) rest)) :
      Finds walk done input (.failed cause rest)

/-- The walk does from every place what the rule does, and always has an answer. -/
def Leads (walk : Walk α) (rule : List Char → Reading α) : Prop :=
  ∀ done input, Arrives walk done input (rule input)

/-- The walk does from every place what the rule does. -/
def Follows (walk : Walk (Option α)) (rule : List Char → Reading α) : Prop :=
  ∀ done input, Finds walk done input (rule input)

section

variable {done input : List Char} {r : Reading α}

/-- What is left after a walk is no longer than what was there. -/
theorem Finds.length_le {walk : Walk (Option α)} {a : α} {rest : List Char}
    (h : Finds walk done input (.found a rest)) : rest.length ≤ input.length := by
  cases h with
  | found hw _ =>
    rw [hw, List.length_append]
    omega

/-- A walk that goes on as another one does, farther on in the line. -/
theorem Arrives.of_step {walk walk' : Walk α} {w rest : List Char} (hw : input = w ++ rest)
    (hstep : walk (between done input) = walk' (between (done ++ w) rest))
    (h : Arrives walk' (done ++ w) rest r) : Arrives walk done input r := by
  cases h with
  | @found w' rest' a hw' h =>
    refine .found (w := w ++ w') (by rw [hw, hw', List.append_assoc]) ?_
    rw [hstep, h, List.append_assoc]
  | @failed w' rest' cause hcause hw' h =>
    refine .failed (w := w ++ w') hcause (by rw [hw, hw', List.append_assoc]) ?_
    rw [hstep, h, List.append_assoc]

theorem Arrives.bind {walk : Walk α} {next : α → Walk β} {rule : α → List Char → Reading β}
    (h : Arrives walk done input r)
    (hnext : ∀ {a w rest}, input = w ++ rest → r = .found a rest →
      Arrives (next a) (done ++ w) rest (rule a rest)) :
    Arrives (walk >>= next) done input (r.andThen rule) := by
  cases h with
  | failed hcause hw h => exact .failed hcause hw (bind_of_error h)
  | found hw h => exact (hnext hw rfl).of_step hw (bind_of_ok h)

/-- A walk that has committed itself to another one, farther on in the line. -/
theorem Arrives.finds_of_step {walk : Walk (Option α)} {walk' : Walk α} {w rest : List Char}
    (hw : input = w ++ rest)
    (hstep : walk (between done input) =
      (walk' >>= fun a => pure (some a)) (between (done ++ w) rest))
    (h : Arrives walk' (done ++ w) rest r) : Finds walk done input r := by
  cases h with
  | @found w' rest' a hw' h =>
    refine .found (w := w ++ w') (by rw [hw, hw', List.append_assoc]) ?_
    rw [hstep, bind_of_ok h, List.append_assoc]
    rfl
  | @failed w' rest' cause hcause hw' h =>
    refine .failed (w := w ++ w') hcause (by rw [hw, hw', List.append_assoc]) ?_
    rw [hstep, bind_of_error h, List.append_assoc]
    rfl

/-- What a walk has found, or failed to find, is not tried again. -/
theorem Finds.orElse {walk : Walk (Option α)} (h : Finds walk done input r)
    (other : Walk (Option α)) (hr : r ≠ .absent) : Finds (walk.orElse other) done input r := by
  cases h with
  | absent h => exact absurd rfl hr
  | found hw h => exact .found hw (bind_of_ok h)
  | failed hcause hw h => exact .failed hcause hw (bind_of_error h)

theorem Arrives.congr {walk walk' : Walk α} (h : Arrives walk done input r)
    (hsame : walk' (between done input) = walk (between done input)) :
    Arrives walk' done input r := by
  cases h with
  | found hw h => exact .found hw (hsame.trans h)
  | failed hcause hw h => exact .failed hcause hw (hsame.trans h)

theorem Finds.congr {walk walk' : Walk (Option α)} (h : Finds walk done input r)
    (hsame : walk' (between done input) = walk (between done input)) :
    Finds walk' done input r := by
  cases h with
  | absent h => exact .absent (hsame.trans h)
  | found hw h => exact .found hw (hsame.trans h)
  | failed hcause hw h => exact .failed hcause hw (hsame.trans h)

end

section

variable {walk : Walk (Option α)} {rule : List Char → Reading α}

theorem leads_pure (a : α) : Leads (pure a) (.found a) := by
  intro done input
  refine .found (w := []) rfl ?_
  rw [List.append_nil]
  rfl

theorem Leads.bind {walk : Walk α} {next : α → Walk β} {rule' : α → List Char → Reading β}
    (h : Leads walk rule) (hnext : ∀ a, Leads (next a) (rule' a)) :
    Leads (walk >>= next) (fun input => (rule input).andThen rule') :=
  fun done input => (h done input).bind fun _ _ => hnext _ _ _

theorem Follows.orFail (h : Follows walk rule) (cause : SyntaxCause) (hcause : cause.OfLine) :
    Leads (walk.orFail cause) (fun input => (rule input).orFail cause input) := by
  intro done input
  have hfinds := h done input
  show Arrives _ done input ((rule input).orFail cause input)
  generalize rule input = r at hfinds
  cases hfinds with
  | absent h =>
    refine .failed (w := []) hcause rfl ?_
    rw [Walk.orFail, bind_of_ok h, List.append_nil]
  | found hw h => exact .found hw (bind_of_ok h)
  | failed hcause hw h => exact .failed hcause hw (bind_of_error h)

theorem Follows.orElse {other : Walk (Option α)} {rule' : List Char → Reading α}
    (h : Follows walk rule) (ho : Follows other rule') :
    Follows (walk.orElse other) (fun input => (rule input).orElse fun _ => rule' input) := by
  intro done input
  have hfinds := h done input
  show Finds _ done input ((rule input).orElse fun _ => rule' input)
  generalize rule input = r at hfinds
  cases hfinds with
  | absent h => exact (ho done input).congr (bind_of_ok h)
  | found hw h => exact .found hw (bind_of_ok h)
  | failed hcause hw h => exact .failed hcause hw (bind_of_error h)

/-- What always has an answer may go on after something was found. -/
theorem Follows.andThen {next : α → Walk β} {rule' : α → List Char → Reading β}
    (h : Follows walk rule) (hnext : ∀ a, Leads (next a) (rule' a)) :
    Follows (walk.andThen next) (fun input => (rule input).andThen rule') := by
  intro done input
  have hfinds := h done input
  show Finds _ done input ((rule input).andThen rule')
  generalize rule input = r at hfinds
  cases hfinds with
  | absent h => exact .absent (bind_of_ok h)
  | found hw h => exact (hnext _ _ _).finds_of_step hw (bind_of_ok h)
  | failed hcause hw h => exact .failed hcause hw (bind_of_error h)

/-- What is found may be changed. -/
theorem Follows.map (h : Follows walk rule) (f : α → β) :
    Follows (walk.andThen fun a => pure (f a)) (fun input => (rule input).map f) := by
  have hmap : (fun input => (rule input).map f) =
      fun input => (rule input).andThen fun a => .found (f a) := by
    funext input
    cases rule input <;> rfl
  rw [hmap]
  exact h.andThen fun a => leads_pure (f a)

/-- A walk and a rule that one character commits to something. -/
theorem follows_after {c : Char} {walk : Walk α} {body : List Char → Reading α}
    (h : Leads walk body) (hopen : ∀ rest, rule (c :: rest) = body rest)
    (hother : ∀ input, (∀ rest, input ≠ c :: rest) → rule input = .absent) :
    Follows (after lang c walk) rule := by
  intro done input
  by_cases hc : ∃ rest, input = c :: rest
  · obtain ⟨rest, rfl⟩ := hc
    rw [hopen]
    exact (h (done ++ [c]) rest).finds_of_step rfl (bind_of_ok (test_matchChar_self done rest c))
  · have hne : ∀ rest, input ≠ c :: rest := fun rest hrest => hc ⟨rest, hrest⟩
    rw [hother input hne]
    exact .absent (bind_of_ok (test_matchChar_of_ne hne done))

end

/-- A demand that is met, or not, without a step. -/
theorem demand_of_false {r : Request} {cause : SyntaxCause} {c : Cursor}
    (h : test lang r c = (.ok false, c)) : demand lang r cause c = complain cause c :=
  branch_of_false h

theorem demand_of_true {r : Request} {cause : SyntaxCause} {c c' : Cursor}
    (h : test lang r c = (.ok true, c')) : demand lang r cause c = (.ok (), c') :=
  branch_of_true h

theorem expect_leads (lang : Language) (c : Char) : Leads (expect lang c) (Grammar.expect c) := by
  intro done input
  by_cases hc : ∃ rest, input = c :: rest
  · obtain ⟨rest, rfl⟩ := hc
    rw [Grammar.expect_eq_found.mpr rfl]
    exact .found (w := [c]) rfl (demand_of_true (test_matchChar_self done rest c))
  · have hne : ∀ rest, input ≠ c :: rest := fun rest hrest => hc ⟨rest, hrest⟩
    rw [Grammar.expect_eq_failed.mpr ⟨rfl, rfl, hne⟩]
    refine .failed (w := []) trivial rfl ?_
    rw [List.append_nil]
    exact demand_of_false (test_matchChar_of_ne hne done)

end Walk

end PlaneCalc

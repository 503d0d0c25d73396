import PlaneCalc.SyntaxFault

/-!
# Readings

A rule of the grammar tries to read something at the front of the input. It finds the thing absent,
in which case nothing is consumed and another rule may be tried; or it finds it and leaves the rest;
or, once the input has committed to the rule, it fails where the rest begins.
-/

namespace PlaneCalc

/-- What became of the attempt to read an `α`. -/
inductive Reading (α : Type) where
  | absent
  | found (item : α) (rest : List Char)
  | failed (cause : SyntaxCause) (rest : List Char)
deriving DecidableEq

namespace Reading

variable {α β : Type}

/-- Go on after something was found. -/
def andThen (r : Reading α) (next : α → List Char → Reading β) : Reading β :=
  match r with
  | absent => absent
  | found a rest => next a rest
  | failed cause rest => failed cause rest

/-- Try something else where it was absent. -/
def orElse (r : Reading α) (other : Unit → Reading α) : Reading α :=
  match r with
  | absent => other ()
  | r => r

/-- Fail at the input where it was absent. -/
def orFail (r : Reading α) (cause : SyntaxCause) (input : List Char) : Reading α :=
  match r with
  | absent => failed cause input
  | r => r

/-- Change what was found. -/
def map (f : α → β) (r : Reading α) : Reading β :=
  match r with
  | absent => absent
  | found a rest => found (f a) rest
  | failed cause rest => failed cause rest

/-! ## How a reading came about -/

section

variable {r : Reading α} {cause cause' : SyntaxCause} {input rest : List Char} {a : α} {b : β}

theorem andThen_eq_absent {next : α → List Char → Reading β} :
    r.andThen next = absent ↔ r = absent ∨ ∃ a mid, r = found a mid ∧ next a mid = absent := by
  cases r <;> simp [andThen, and_assoc]

theorem andThen_eq_found {next : α → List Char → Reading β} :
    r.andThen next = found b rest ↔ ∃ a mid, r = found a mid ∧ next a mid = found b rest := by
  cases r <;> simp [andThen, and_assoc]

theorem andThen_eq_failed {next : α → List Char → Reading β} :
    r.andThen next = failed cause rest ↔
      r = failed cause rest ∨ ∃ a mid, r = found a mid ∧ next a mid = failed cause rest := by
  cases r <;> simp [andThen, and_assoc]

theorem orElse_eq_absent {other : Unit → Reading α} :
    r.orElse other = absent ↔ r = absent ∧ other () = absent := by
  cases r <;> simp [orElse]

theorem orElse_eq_found {other : Unit → Reading α} :
    r.orElse other = found a rest ↔
      r = found a rest ∨ r = absent ∧ other () = found a rest := by
  cases r <;> simp [orElse]

theorem orElse_eq_failed {other : Unit → Reading α} :
    r.orElse other = failed cause rest ↔
      r = failed cause rest ∨ r = absent ∧ other () = failed cause rest := by
  cases r <;> simp [orElse]

theorem orFail_ne_absent : r.orFail cause input ≠ absent := by
  cases r <;> simp [orFail]

theorem orFail_eq_found : r.orFail cause input = found a rest ↔ r = found a rest := by
  cases r <;> simp [orFail]

theorem orFail_eq_failed :
    r.orFail cause input = failed cause' rest ↔
      r = failed cause' rest ∨ r = absent ∧ cause = cause' ∧ input = rest := by
  cases r <;> simp [orFail]

theorem map_eq_absent {f : α → β} : r.map f = absent ↔ r = absent := by
  cases r <;> simp [map]

theorem map_eq_found {f : α → β} : r.map f = found b rest ↔ ∃ a, r = found a rest ∧ f a = b := by
  cases r with
  | absent => simp [map]
  | failed cause mid => simp [map]
  | found a mid => simp [map, and_assoc, and_comm (a := f a = b)]

theorem map_eq_failed {f : α → β} : r.map f = failed cause rest ↔ r = failed cause rest := by
  cases r <;> simp [map]

end

end Reading

/-- One certain character. -/
def Grammar.expect (c : Char) : List Char → Reading Unit
  | [] => .failed (.missing c) []
  | d :: rest => if d = c then .found () rest else .failed (.missing c) (d :: rest)

namespace Grammar

variable {c : Char} {input rest : List Char}

theorem expect_ne_absent : expect c input ≠ .absent := by
  cases input with
  | nil => simp [expect]
  | cons d input =>
    rw [expect]
    split <;> simp

theorem expect_eq_found : expect c input = .found () rest ↔ input = c :: rest := by
  cases input with
  | nil => simp [expect]
  | cons d input =>
    rw [expect]
    split <;> simp_all

theorem expect_eq_failed {cause : SyntaxCause} :
    expect c input = .failed cause rest ↔
      cause = .missing c ∧ rest = input ∧ ∀ more, input ≠ c :: more := by
  cases input with
  | nil => simp [expect, eq_comm]
  | cons d input =>
    rw [expect]
    split <;> simp_all [eq_comm]

end Grammar

end PlaneCalc

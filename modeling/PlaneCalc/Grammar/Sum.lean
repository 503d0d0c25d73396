import PlaneCalc.Grammar.Atom

/-!
# Sums

A sum is a chain of products, a product a chain of terms, and a term is an atom or a sum in
parentheses. Chains associate to the left. Groups may be nested only so deep: `group` counts the
levels that are left, and every other rule is a function of what a group is.

Reference: `vecalc.core.expression_lang.parser`.
-/

namespace PlaneCalc.Grammar

/-- The links of a chain after its first operand. Each link takes an operator and an operand, so as
many rounds as there are characters left are enough. -/
def links (operators : List Operator) (operand : List Char → Reading Expr) :
    Nat → Expr → List Char → Reading Expr
  | rounds + 1, left, c :: rest =>
    match Operator.ofSymbol? operators c with
    | none => .found left (c :: rest)
    | some op =>
      ((operand rest).orFail (.operandMissing op) rest).andThen fun right rest' =>
        links operators operand rounds (.binary op left right) rest'
  | _, left, rest => .found left rest

/-- A chain of operands. -/
def chain (operators : List Operator) (operand : List Char → Reading Expr)
    (input : List Char) : Reading Expr :=
  (operand input).andThen fun first rest => links operators operand rest.length first rest

/-- A term, given what a group is. -/
def termWith (lang : Language) (inner : List Char → Reading Expr) (input : List Char) :
    Reading Expr :=
  (number input).orElse fun _ =>
  (vector input).orElse fun _ =>
  (reference lang input).orElse fun _ =>
  inner input

/-- A product, given what a group is. -/
def productWith (lang : Language) (inner : List Char → Reading Expr) : List Char → Reading Expr :=
  chain Operator.multiplicative (termWith lang inner)

/-- A sum, given what a group is. -/
def sumWith (lang : Language) (inner : List Char → Reading Expr) : List Char → Reading Expr :=
  chain Operator.additive (productWith lang inner)

/-- How deep groups may be nested. The number stands for what the stack of the host has room for, which
depends on how much of it is in use when a line is read. It is never less than 200, and only that is
relied on. -/
def groupLimit : Nat := 245

/-- A sum in parentheses; groups may be nested at most `levels` deep, this one included. -/
def group (lang : Language) : Nat → List Char → Reading Expr
  | 0, '(' :: rest => .failed .nestedTooDeeply rest
  | levels + 1, '(' :: rest =>
    ((sumWith lang (group lang levels) rest).orFail .groupEmpty rest).andThen fun e rest' =>
    (expect ')' rest').andThen fun _ rest'' =>
    .found e rest''
  | _, _ => .absent

/-- A group is absent where no parenthesis opens. -/
theorem group_of_ne_open (lang : Language) (levels : Nat) {input : List Char}
    (h : ∀ rest, input ≠ '(' :: rest) : group lang levels input = .absent := by
  unfold group
  split <;> simp_all

/-- A term with at most `levels` nested groups. -/
def term (lang : Language) (levels : Nat) : List Char → Reading Expr :=
  termWith lang (group lang levels)

/-- A product with at most `levels` nested groups. -/
def product (lang : Language) (levels : Nat) : List Char → Reading Expr :=
  productWith lang (group lang levels)

/-- A sum with at most `levels` nested groups. -/
def sum (lang : Language) (levels : Nat) : List Char → Reading Expr :=
  sumWith lang (group lang levels)

end PlaneCalc.Grammar

import PlaneCalc.Grammar.Atom
import PlaneCalc.Text.Quoted

/-!
# Cursors

A cursor walks over a line without blanks. It can look at characters, step forward, remember a
position and go back to it, and take whole atoms off the line. Whatever is asked of it, it stays
between the two ends of the line; a request that it refuses leaves it where it stands, except that an
atom which fails halfway leaves it at the place of the failure.

Reference: `vecalc.core.expression_lang.tokenizer`.
-/

namespace PlaneCalc

/-- A line and a place in it. -/
structure Cursor where
  /-- The line without its blanks. -/
  data : List Char
  /-- The number of characters before the cursor. -/
  pos : Nat
deriving DecidableEq

/-- What can be asked of a cursor. -/
inductive Request where
  | atEnd
  | currentChar
  | peekNext
  | advance
  | mark
  | resetTo (mark : Int)
  | matchChar (expected : String)
  | isLetter
  | isDigit
  | isNegativeSign
  | isDecimalPoint
  | isOperator
  | number
  | vector
  | name
  | describe
  | complain (text : String) (expected : Option String) (category : Category)
deriving DecidableEq

/-- What a cursor answers. -/
inductive Reply where
  | nothing
  | flag (b : Bool)
  | character (c : Char)
  | offset (n : Nat)
  | tree (e : Expr)
  | description (text : String)
deriving DecidableEq

namespace Cursor

/-- A cursor at the beginning of a line. -/
def ofLine (line : String) : Cursor := ⟨Text.compact line, 0⟩

/-- The line from the cursor on. -/
def rest (c : Cursor) : List Char := c.data.drop c.pos

/-- The cursor where a rest of the line begins. -/
def atRest (c : Cursor) (rest : List Char) : Cursor := { c with pos := c.data.length - rest.length }

/-- A syntax fault at the cursor. -/
def fault (c : Cursor) (cause : SyntaxCause) : Diagnostic :=
  (SyntaxFault.mk c.data c.pos cause).diagnostic

/-- Whether the cursor stands before a character of some class. -/
def sees (c : Cursor) (test : Char → Bool) : Bool := c.rest.head?.any test

/-- The outcome of taking an atom off the line. -/
def afterReading (c : Cursor) : Reading Expr → Except Diagnostic Reply × Cursor
  | .absent => (.ok .nothing, c)
  | .found e rest => (.ok (.tree e), c.atRest rest)
  | .failed cause rest => (.error ((c.atRest rest).fault cause), c.atRest rest)

/-- The answer to a request, and where the cursor stands afterwards. -/
def handle (lang : Language) (c : Cursor) : Request → Except Diagnostic Reply × Cursor
  | .atEnd => (.ok (.flag c.rest.isEmpty), c)
  | .currentChar =>
    match c.rest with
    | [] => (.error (c.fault .endOfInput), c)
    | x :: _ => (.ok (.character x), c)
  | .peekNext =>
    match c.rest with
    | _ :: x :: _ => (.ok (.character x), c)
    | _ => (.ok .nothing, c)
  | .advance =>
    match c.rest with
    | [] => (.error (c.fault .stepPastEnd), c)
    | _ :: _ => (.ok .nothing, { c with pos := c.pos + 1 })
  | .mark => (.ok (.offset c.pos), c)
  | .resetTo mark =>
    if 0 ≤ mark ∧ mark ≤ c.data.length then (.ok .nothing, { c with pos := mark.toNat })
    else
      (.error ⟨.invalidMark,
        "Mark " ++ toString mark ++ " is outside [0, " ++ toString c.data.length ++ "]", none⟩, c)
  | .matchChar expected =>
    match c.rest with
    | [] => (.ok (.flag false), c)
    | x :: _ =>
      if x.toString = expected then (.ok (.flag true), { c with pos := c.pos + 1 })
      else (.ok (.flag false), c)
  | .isLetter => (.ok (.flag (c.sees Char.isLower)), c)
  | .isDigit => (.ok (.flag (c.sees Char.isDigit)), c)
  | .isNegativeSign => (.ok (.flag (c.sees (· = '-'))), c)
  | .isDecimalPoint => (.ok (.flag (c.sees (· = '.'))), c)
  | .isOperator => (.ok (.flag (c.sees lang.operators.contains)), c)
  | .number => c.afterReading (Grammar.number c.rest)
  | .vector => c.afterReading (Grammar.vector c.rest)
  | .name => c.afterReading (Grammar.reference lang c.rest)
  | .describe =>
    (.ok (.description ("Scanner(" ++ Text.Quoted.encode (String.ofList c.data) ++ ", pos=" ++
      toString c.pos ++ ")")), c)
  | .complain text expected category =>
    (.error ⟨category, text, some (.ofIndex (String.ofList c.data) c.pos expected)⟩, c)

/-- The answers to requests in order, each with the place of the cursor after it. -/
def handleAll (lang : Language) : Cursor → List Request → List (Except Diagnostic Reply × Nat)
  | _, [] => []
  | c, r :: rest =>
    let (answer, c') := c.handle lang r
    (answer, c'.pos) :: handleAll lang c' rest

end Cursor

end PlaneCalc

import PlaneCalc.Operator
import PlaneCalc.Text.Alphanumeric
import PlaneCalc.Text.Blank

/-!
# The language of input lines

One character of the language can be chosen: the symbol that assigns. It must not be alphanumeric,
blank or a character that the grammar uses already, so that no line can be read in two ways.

Reference: `vecalc.core.config`.
-/

namespace PlaneCalc

/-- Characters with a fixed meaning in the grammar. -/
def reservedCharacters : List Char := ['+', '-', '*', '/', '(', ')', '[', ']', ',', '.']

/-- Whether a character can be chosen to assign. -/
def isAdmissible (c : Char) : Bool :=
  !Text.isAlphanumeric c && !Text.isBlank c && !reservedCharacters.contains c

/-- A language, fixed by its assignment symbol. -/
structure Language where
  /-- The character between the name and the value of an assignment. -/
  symbol : Char
  admissible : isAdmissible symbol = true

namespace Language

/-- The language that assigns with an equals sign. -/
def standard : Language := ⟨'=', by decide⟩

instance : Inhabited Language := ⟨standard⟩

/-- The language with a given assignment symbol, if it can be chosen. -/
def ofSymbol? (c : Char) : Option Language :=
  if h : isAdmissible c = true then some ⟨c, h⟩ else none

/-- A language is found again by its symbol. -/
theorem ofSymbol?_symbol (lang : Language) : ofSymbol? lang.symbol = some lang := by
  simp [ofSymbol?, lang.admissible]

/-- The characters that operate on a name before them. -/
def operators (lang : Language) : List Char := Operator.all.map Operator.symbol ++ [lang.symbol]

/-- The operator characters by code point. -/
def sortedOperators (lang : Language) : List Char := lang.operators.mergeSort fun a b => a ≤ b

/-- The characters that close what a name may stand in. -/
def closers : List Char := [')', ']', ',']

/-- Whether a name may end before this rest of the line. -/
def endsName (lang : Language) : List Char → Bool
  | [] => true
  | c :: _ => lang.operators.contains c || closers.contains c

end Language

end PlaneCalc

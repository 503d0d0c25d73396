/-!
# Capital forms

The capital form of a character, as far as it is spelled in ASCII: every lower-case ASCII letter, the
dotless i, the long and the sharp s, and the Latin ligatures. A character whose capital form is not
spelled in ASCII stands for itself, which is enough to compare a capitalised text with a word of
ASCII capitals.
-/

namespace PlaneCalc.Text

/-- The capital form of a character. -/
def capital (c : Char) : List Char :=
  if c.isLower then [c.toUpper] else
  match c with
  | 'ß' => ['S', 'S']
  | 'ı' => ['I']
  | 'ſ' => ['S']
  | 'ﬀ' => ['F', 'F']
  | 'ﬁ' => ['F', 'I']
  | 'ﬂ' => ['F', 'L']
  | 'ﬃ' => ['F', 'F', 'I']
  | 'ﬄ' => ['F', 'F', 'L']
  | 'ﬅ' => ['S', 'T']
  | 'ﬆ' => ['S', 'T']
  | c => [c]

/-- A text in capitals. -/
def capitals (text : String) : String := String.ofList (text.toList.flatMap capital)

end PlaneCalc.Text

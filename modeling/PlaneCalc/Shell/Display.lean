import PlaneCalc.Text.Cells

/-!
# Texts on the terminal

A tab reaches to the next cell whose number is a multiple of eight, and a few control characters are
not shown. Square brackets can mark up a text: a bracket that opens a tag is one before a small letter,
`#`, `/` or `@` with a closing bracket before the next opening one. Texts are shown as they are and
never as markup, with two exceptions that the terminal makes: a backslash directly before a bracket
that opens no tag is not shown, and a single backslash at the very end is shown twice.
-/

namespace PlaneCalc.Display

/-- Control characters that are not shown: bell, backspace, vertical tab, form feed and carriage
return. -/
def isHidden (c : Char) : Bool := [0x07, 0x08, 0x0B, 0x0C, 0x0D].contains c.toNat

/-- The pieces of a line between its tabs, each tab filled up by spaces. A tab is one space and as many
more as reach the next multiple of eight. -/
def fillTabs : List (List Char) → List Char
  | [] => []
  | [last] => last
  | piece :: rest =>
    piece ++ ' ' :: List.replicate ((8 - Text.cells (piece ++ [' ']) % 8) % 8) ' ' ++ fillTabs rest

/-- A text with its tabs filled up by spaces, line by line. -/
def expandTabs (text : List Char) : List Char :=
  ['\n'].intercalate ((text.splitOn '\n').map fun line => fillTabs (line.splitOn '\t'))

/-- Whether a bracket before this text opens a tag. -/
def opensTag : List Char → Bool
  | [] => false
  | c :: rest =>
    (c.isLower || c = '#' || c = '/' || c = '@') &&
      match rest.dropWhile fun d => d ≠ '[' && d ≠ ']' with
      | ']' :: _ => true
      | _ => false

/-- A text without the backslashes before brackets that open no tag. -/
def dropBackslashes : List Char → List Char
  | '\\' :: '[' :: rest =>
    if opensTag rest then '\\' :: '[' :: dropBackslashes rest else '[' :: dropBackslashes rest
  | c :: rest => c :: dropBackslashes rest
  | [] => []

/-- A text with a single backslash at its end doubled. -/
def doubleLastBackslash (text : List Char) : List Char :=
  match text.reverse with
  | '\\' :: '\\' :: _ => text
  | '\\' :: _ => text ++ ['\\']
  | _ => text

/-- A text as the terminal shows it. -/
def shown (text : String) : String :=
  let plain := doubleLastBackslash (dropBackslashes text.toList)
  String.ofList (expandTabs (plain.filter fun c => !isHidden c))

/-- A text on lines of its own. -/
def printed (text : String) : String := shown text ++ "\n"

end PlaneCalc.Display

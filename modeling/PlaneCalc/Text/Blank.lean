import PlaneCalc.Text.Ranges

/-!
# Blank characters

A blank is a character of the Unicode property `White_Space` or one of the four separators U+001C
to U+001F. Blanks carry no meaning in an input line; elsewhere only those at the two ends of a text
are dropped.
-/

namespace PlaneCalc.Text

/-- Code points of the blank characters. -/
def blanks : Ranges :=
  [(0x09, 0x0D), (0x1C, 0x20), (0x85, 0x85), (0xA0, 0xA0), (0x1680, 0x1680), (0x2000, 0x200A),
    (0x2028, 0x2029), (0x202F, 0x202F), (0x205F, 0x205F), (0x3000, 0x3000)]

/-- Whether a character is blank. -/
def isBlank (c : Char) : Bool := blanks.contains c.toNat

/-- The characters of a line that carry meaning. -/
def compact (line : String) : List Char := line.toList.filter fun c => !isBlank c

/-- A text without the blanks at its two ends. -/
def trim (text : String) : String :=
  String.ofList ((text.toList.dropWhile isBlank).reverse.dropWhile isBlank).reverse

/-- A compacted line has no blank left. -/
theorem isBlank_of_mem_compact {line : String} {c : Char} (h : c ∈ compact line) :
    isBlank c = false := by
  simpa using (List.mem_filter.1 h).2

/-- A character that is not blank is never dropped from the front. -/
theorem mem_dropWhile_isBlank {cs : List Char} {c : Char} (hc : c ∈ cs) (h : isBlank c = false) :
    c ∈ cs.dropWhile isBlank := by
  rw [← List.takeWhile_append_dropWhile (p := isBlank) (l := cs)] at hc
  rcases List.mem_append.mp hc with hblank | hrest
  · have hall := List.all_eq_true.mp List.all_takeWhile c hblank
    simp [h] at hall
  · exact hrest

/-- Trimming keeps every character that is not blank. -/
theorem mem_trim {text : String} {c : Char} (hc : c ∈ text.toList) (h : isBlank c = false) :
    c ∈ (trim text).toList := by
  rw [trim, String.toList_ofList, List.mem_reverse]
  exact mem_dropWhile_isBlank (List.mem_reverse.mpr (mem_dropWhile_isBlank hc h)) h

end PlaneCalc.Text

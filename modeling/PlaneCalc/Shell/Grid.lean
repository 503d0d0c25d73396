/-!
# Grids

A table with a header and a frame. Every column is as wide as its widest cell, with one space on each
side.
-/

namespace PlaneCalc.Grid

/-- A character repeated. -/
def bar (c : Char) (n : Nat) : String := String.ofList (List.replicate n c)

/-- The width of a column that also has to fit one more cell. -/
def widen (width : Option Nat) (cell : Option String) : Nat :=
  max (width.getD 0) ((cell.map String.length).getD 0)

/-- The widths of columns, by the rows that have to fit. -/
def widths (rows : List (List String)) : List Nat := rows.foldl (List.zipWithAll widen) []

/-- A horizontal rule. -/
def rule (left fill cross right : Char) (ws : List Nat) : String :=
  left.toString ++ cross.toString.intercalate (ws.map fun w => bar fill (w + 2)) ++ right.toString

/-- A row of cells between vertical lines. -/
def cells (line : Char) (ws : List Nat) (row : List String) : String :=
  let padded := List.zipWith (fun w cell => " " ++ cell ++ bar ' ' (w - cell.length) ++ " ") ws row
  line.toString ++ line.toString.intercalate padded ++ line.toString

/-- The lines of a grid. -/
def lines (header : List String) (rows : List (List String)) : List String :=
  let ws := widths (header :: rows)
  [rule '┏' '━' '┳' '┓' ws, cells '┃' ws header, rule '┡' '━' '╇' '┩' ws]
    ++ rows.map (cells '│' ws) ++ [rule '└' '─' '┴' '┘' ws]

end PlaneCalc.Grid

import PlaneCalc.Toml.Value

/-!
# Documents of TOML

A document is a sequence of lines: fields, headers that move to a table, headers that append a table
to an array, comments and blank lines. A table can be opened by a header only once, a field can be
written only once, and nothing can be added to a value written inline.
-/

namespace PlaneCalc.Toml

/-- A document as far as it has been read. -/
structure Draft where
  /-- What has been written so far. -/
  fields : Table
  /-- The table that the last header moved to. -/
  header : List String
  /-- Values written inline. -/
  sealedPaths : List (List String)
  /-- Tables that a header can no longer open. -/
  closed : List (List String)
  /-- Tables opened by dotted keys below the last header, which the next header will close. -/
  pending : List (List String)

namespace Draft

/-- A document before its first line. -/
def initial : Draft := ⟨[], [], [], [], []⟩

/-- The draft when a header begins. -/
def settle (d : Draft) : Draft := { d with closed := d.pending ++ d.closed, pending := [] }

/-- A header that moves to a table. -/
def openTable (d : Draft) (path : List String) : Option Draft :=
  if d.closed.contains path || isSealed d.sealedPaths path then none
  else
    (updateAt true some path d.fields).map fun t =>
      { d with fields := t, header := path, closed := path :: d.closed }

/-- An array with an empty table appended. -/
def appendTable (key : String) (t : Table) : Option Table :=
  match t.lookup key with
  | none => some (t ++ [(key, .array [.table []])])
  | some (.array items) => some (setField key (.array (items ++ [.table []])) t)
  | some _ => none

/-- A header that appends a table to an array. What was known about the tables in the one before is
forgotten. -/
def openArray (d : Draft) (path : List String) : Option Draft :=
  if isSealed d.sealedPaths path then none
  else
    let (parents, key) := splitLast path
    (updateAt true (appendTable key) parents d.fields).map fun t =>
      { d with
        fields := t
        header := path
        sealedPaths := d.sealedPaths.filter fun s => !path.isPrefixOf s
        closed := path :: d.closed.filter fun c => !path.isPrefixOf c }

/-- A field below the last header. -/
def addValue (d : Draft) (path : List String) (item : Setting) : Option Draft :=
  let (parents, key) := splitLast path
  let opened := (List.range parents.length).map fun i => d.header ++ path.take (i + 1)
  if opened.any d.closed.contains || isSealed d.sealedPaths (d.header ++ parents) then none
  else
    (updateAt true (addField key item) (d.header ++ parents) d.fields).map fun t =>
      { d with
        fields := t
        sealedPaths := if isCompound item then (d.header ++ path) :: d.sealedPaths else d.sealedPaths
        pending := opened ++ d.pending }

end Draft

/-- The statement at the front of a line, if there is one, taken up by the draft. -/
def statement (limits : Limits) (d : Draft) : List Char → Except Fault (Draft × List Char)
  | '[' :: '[' :: rest => do
    let (path, rest) ← orMalformed (dottedKey (rest.length + 1) (skipSpace rest))
    let d ← orMalformed (d.settle.openArray path)
    match rest with
    | ']' :: ']' :: after => return (d, after)
    | _ => .error .malformed
  | '[' :: rest => do
    let (path, rest) ← orMalformed (dottedKey (rest.length + 1) (skipSpace rest))
    let d ← orMalformed (d.settle.openTable path)
    match rest with
    | ']' :: after => return (d, after)
    | _ => .error .malformed
  | '#' :: rest => .ok (d, '#' :: rest)
  | '\n' :: rest => .ok (d, '\n' :: rest)
  | [] => .ok (d, [])
  | input => do
    let (path, item, after) ← keyValue limits.digits limits.reading (2 * input.length + 2) input
    let d ← orMalformed (d.addValue path item)
    return (d, after)

/-- The table of a document, line by line; every line but the last takes a character. -/
def lines (limits : Limits) : Nat → Draft → List Char → Except Fault Table
  | 0, _, _ => .error .malformed
  | rounds + 1, d, input => do
    let (d, rest) ← statement limits d (skipSpace input)
    let rest ← orMalformed (skipComment (skipSpace rest))
    match rest with
    | [] => return d.fields
    | '\n' :: rest => lines limits rounds d rest
    | _ => .error .malformed

/-- The table of a document with plain line ends. -/
def read (limits : Limits) (text : List Char) : Except Fault Table :=
  lines limits (text.length + 1) .initial text

end PlaneCalc.Toml

import PlaneCalc.Toml.Moment

/-!
# Values of TOML

Arrays and inline tables nest, so their readers recurse on a number of rounds; every second round
takes a character, and twice the length of the text is enough. How deep they nest is limited by room:
an array takes two places of it and a table three. How many digits a decimal integer may have is limited
as well, but not those of an integer in another base. A key of an inline table may be dotted, which opens
tables inside it; a value that is itself an array or a table cannot be added to.
-/

namespace PlaneCalc.Toml

/-- Why a text is no document. -/
inductive Fault where
  /-- It breaks the rules of the format. -/
  | malformed
  /-- A decimal integer has more digits than can be read. -/
  | oversized (digits : Nat)
  /-- Arrays and tables are nested too deeply. -/
  | nestedTooDeeply
deriving DecidableEq

/-- What was read, or a malformed text. -/
def orMalformed {α : Type} : Option α → Except Fault α
  | some a => .ok a
  | none => .error .malformed

/-- A decimal number, unless it is an integer with too many digits. -/
def withinLimit (limit : Nat) : Setting × List Char → Except Fault (Setting × List Char)
  | (.integer n, after) =>
    let digits := (Nat.toDigits 10 n.natAbs).length
    if digits ≤ limit then .ok (.integer n, after) else .error (.oversized digits)
  | r => .ok r

/-- A value that contains no other and is no string, with at most `limit` decimal digits. -/
def plainValue (limit : Nat) (input : List Char) : Except Fault (Setting × List Char) :=
  match boolean input, moment input, basedInteger input, decimalNumber input with
  | some r, _, _, _ => .ok r
  | _, some (m, after), _, _ => .ok (.moment m, after)
  | _, _, some r, _ => .ok r
  | _, _, _, some r => withinLimit limit r
  | _, _, _, _ => orMalformed (specialFloat input)

/-- The text after spaces, line ends and comments. -/
def skipBetween : Nat → List Char → Option (List Char)
  | 0, input => some input
  | rounds + 1, input =>
    match input.dropWhile isSpaceOrNewline with
    | '#' :: rest => (skipComment ('#' :: rest)).bind (skipBetween rounds)
    | rest => some rest

/-- A table with one field replaced. -/
def setField (key : String) (s : Setting) (t : Table) : Table :=
  t.map fun f => if f.1 = key then (f.1, s) else f

/-- A table changed at the end of a path of keys. Tables that the path lacks are opened; it may lead
through the last item of an array of tables if `throughArrays` holds, and through nothing else. -/
def updateAt (throughArrays : Bool) (change : Table → Option Table) : List String → Table → Option Table
  | [], t => change t
  | key :: path, t =>
    match t.lookup key with
    | none => (updateAt throughArrays change path []).map fun inner => t ++ [(key, .table inner)]
    | some (.table inner) =>
      (updateAt throughArrays change path inner).map fun inner' => setField key (.table inner') t
    | some (.array items) =>
      match items.getLast? with
      | some (.table inner) =>
        if throughArrays then
          (updateAt throughArrays change path inner).map fun inner' =>
            setField key (.array (items.dropLast ++ [.table inner'])) t
        else none
      | _ => none
    | some _ => none

/-- A field added to a table that does not have its key yet. -/
def addField (key : String) (s : Setting) (t : Table) : Option Table :=
  match t.lookup key with
  | none => some (t ++ [(key, s)])
  | some _ => none

/-- Whether a setting is closed to additions. -/
def isCompound : Setting → Bool
  | .array _ | .table _ => true
  | _ => false

/-- Whether a path leads to or into one of the given ones. -/
def isSealed (sealedPaths : List (List String)) (path : List String) : Bool :=
  sealedPaths.any fun s => s.isPrefixOf path

/-- The last key of a path and the ones before it. -/
def splitLast (path : List String) : List String × String := (path.dropLast, path.getLastD "")

/-- The room left inside something that takes some of it. -/
def roomInside (places room : Nat) : Except Fault Nat :=
  if places ≤ room then .ok (room - places) else .error .nestedTooDeeply

mutual

/-- A value, given the limit on digits and the room for what it contains. -/
def value (limit room : Nat) : Nat → List Char → Except Fault (Setting × List Char)
  | 0, _ => .error .malformed
  | rounds + 1, input =>
    match input with
    | '[' :: rest => do
      let room ← roomInside 2 room
      let rest ← orMalformed (skipBetween rest.length rest)
      match rest with
      | ']' :: after => return (.array [], after)
      | _ => do
        let (items, after) ← arrayItems limit room rounds rest
        return (.array items, after)
    | '{' :: rest => do
      let room ← roomInside 3 room
      match skipSpace rest with
      | '}' :: after => return (.table [], after)
      | rest => do
        let (fields, after) ← inlineFields limit room rounds [] [] rest
        return (.table fields, after)
    | '"' :: _ | '\'' :: _ => do
      let (text, after) ← orMalformed (stringValue input)
      return (.string (String.ofList text), after)
    | _ => plainValue limit input

/-- The items of an array up to its closing bracket, at least one. -/
def arrayItems (limit room : Nat) : Nat → List Char → Except Fault (List Setting × List Char)
  | 0, _ => .error .malformed
  | rounds + 1, input => do
    let (item, rest) ← value limit room rounds input
    let rest ← orMalformed (skipBetween rest.length rest)
    match rest with
    | ']' :: after => return ([item], after)
    | ',' :: rest => do
      let rest ← orMalformed (skipBetween rest.length rest)
      match rest with
      | ']' :: after => return ([item], after)
      | _ => do
        let (items, after) ← arrayItems limit room rounds rest
        return (item :: items, after)
    | _ => .error .malformed

/-- The fields of an inline table up to its closing brace, added to those before. -/
def inlineFields (limit room : Nat) :
    Nat → List (List String) → Table → List Char → Except Fault (Table × List Char)
  | 0, _, _, _ => .error .malformed
  | rounds + 1, sealedPaths, t, input => do
    let (path, item, rest) ← keyValue limit room rounds input
    let (parents, key) := splitLast path
    let t ← orMalformed
      (if isSealed sealedPaths path then none else updateAt false (addField key item) parents t)
    match skipSpace rest with
    | '}' :: after => return (t, after)
    | ',' :: rest =>
      let sealedPaths := if isCompound item then path :: sealedPaths else sealedPaths
      inlineFields limit room rounds sealedPaths t (skipSpace rest)
    | _ => .error .malformed

/-- A key, an equals sign and a value. -/
def keyValue (limit room : Nat) :
    Nat → List Char → Except Fault (List String × Setting × List Char)
  | 0, _ => .error .malformed
  | rounds + 1, input => do
    let (path, rest) ← orMalformed (dottedKey (input.length + 1) input)
    match rest with
    | '=' :: rest => do
      let (item, after) ← value limit room rounds (skipSpace rest)
      return (path, item, after)
    | _ => .error .malformed

end

end PlaneCalc.Toml

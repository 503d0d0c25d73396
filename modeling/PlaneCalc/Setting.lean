import PlaneCalc.Double.Text
import PlaneCalc.Limits
import PlaneCalc.Moment
import PlaneCalc.Text.Quoted

/-!
# Settings

The values that a configuration is made of. Tables keep their keys in the order in which they were
written. `Setting.display` shows a setting inside a message, from left to right and layer by layer; it
gives up at the first integer that has too many digits and at the first value that is nested too deeply.
-/

namespace PlaneCalc

/-- A value of a configuration. -/
inductive Setting where
  | null
  | bool (b : Bool)
  | integer (n : Int)
  | float (x : Double)
  | string (s : String)
  | moment (m : Moment)
  | array (items : List Setting)
  | table (fields : List (String × Setting))
deriving Inhabited

/-- The fields of a table, in order. -/
abbrev Table := List (String × Setting)

/-- Why a setting cannot be shown. -/
inductive Unshowable where
  /-- An integer has more decimal digits than may be written. -/
  | oversized (limit : Nat)
  /-- There is no room for its layers. -/
  | nestedTooDeeply
deriving DecidableEq

/-- The wording of a reason. -/
def Unshowable.text : Unshowable → String
  | oversized limit =>
    "Exceeds the limit (" ++ toString limit ++ " digits) for integer string conversion; " ++
      "use sys.set_int_max_str_digits() to increase the limit"
  | nestedTooDeeply => "maximum recursion depth exceeded while getting the repr of an object"

namespace Setting

mutual

/-- A setting as messages show it, with so many digits at most and room for so many layers. -/
def display (digits : Nat) : Setting → Nat → Except Unshowable String
  | _, 0 => .error .nestedTooDeeply
  | null, _ + 1 => .ok "None"
  | bool b, _ + 1 => .ok (if b then "True" else "False")
  | integer n, _ + 1 =>
    if n.natAbs < Nat.pow 10 digits then .ok (toString n) else .error (.oversized digits)
  | float x, _ + 1 => .ok x.fullText
  | string s, _ + 1 => .ok (Text.Quoted.encode s)
  | moment m, room + 1 =>
    if m.layers ≤ room + 1 then .ok m.description else .error .nestedTooDeeply
  | array items, room + 1 => do
    let shown ← displayItems digits items room
    return "[" ++ ", ".intercalate shown ++ "]"
  | table fields, room + 1 => do
    let shown ← displayFields digits fields room
    return "\x7b" ++ ", ".intercalate shown ++ "\x7d"

/-- The items of an array as messages show them. -/
def displayItems (digits : Nat) : List Setting → Nat → Except Unshowable (List String)
  | [], _ => .ok []
  | s :: rest, room => do
    let first ← s.display digits room
    let others ← displayItems digits rest room
    return first :: others

/-- The fields of a table as messages show them. A key takes one layer, and its setting no less. -/
def displayFields (digits : Nat) : List (String × Setting) → Nat → Except Unshowable (List String)
  | [], _ => .ok []
  | (key, s) :: rest, room => do
    let first ← s.display digits room
    let others ← displayFields digits rest room
    return (Text.Quoted.encode key ++ ": " ++ first) :: others

end

/-- The value of a key as messages show it. -/
def shown (limits : Limits) (key : String) (s : Setting) : Except Unshowable String :=
  s.display limits.digits (limits.showing key)

/-- The value of a key as a plain text: a string stands for itself, and a moment is not described. -/
def plain (limits : Limits) (key : String) : Setting → Except Unshowable String
  | string s => .ok s
  | moment m => .ok m.text
  | s => s.shown limits key

/-- A string can always be shown. -/
theorem shown_string (limits : Limits) (key s : String) :
    (string s).shown limits key = .ok (Text.Quoted.encode s) := by
  have hroom : 0 < limits.showing key := Nat.lt_of_lt_of_le (by decide) (limits.showing_enough key)
  obtain ⟨room, hroom⟩ := Nat.exists_eq_succ_of_ne_zero (Nat.ne_of_gt hroom)
  rw [shown, hroom, display]

end Setting

end PlaneCalc

import PlaneCalc.Double.Text

/-!
# Values

The calculator computes with scalars and with vectors of the plane. An `Operand` is a value or an
object of some other kind, which a set of variables may hold but no operator accepts.

Reference: `vecalc.core.ir.values`.
-/

namespace PlaneCalc

/-- The axes of the plane. -/
inductive Axis where
  | x
  | y
deriving DecidableEq

/-- The name of an axis. -/
def Axis.name : Axis → String
  | x => "x"
  | y => "y"

/-- A scalar, or a vector by its two components. -/
inductive Value where
  | scalar (number : Double)
  | vector (x y : Double)
deriving DecidableEq

namespace Value

/-- The kind of a value, as messages and tables give it. -/
def kind : Value → String
  | scalar _ => "scalar"
  | vector _ _ => "vector"

/-- A value as results show it. -/
def text : Value → String
  | scalar n => n.text
  | vector x y => "[" ++ x.text ++ ", " ++ y.text ++ "]"

/-- The name of the form of a value. -/
def form : Value → String
  | scalar _ => "Scalar"
  | vector _ _ => "Vector"

/-- A value with the names of its parts. -/
def description : Value → String
  | scalar n => "Scalar(value=" ++ n.fullText ++ ")"
  | vector x y => "Vector(x=" ++ x.fullText ++ ", y=" ++ y.fullText ++ ")"

end Value

/-- A value, or an object that is none, known by the name of its type. -/
inductive Operand where
  | value (v : Value)
  | foreign (type : String)
deriving DecidableEq

namespace Operand

/-- The kind of an operand; a foreign object goes by the name of its type. -/
def kind : Operand → String
  | value v => v.kind
  | foreign type => type

/-- An operand as results show it. -/
def text : Operand → String
  | value v => v.text
  | foreign type => type

/-- The name of the form of an operand. -/
def form : Operand → String
  | value v => v.form
  | foreign type => type

/-- An operand with the names of its parts. -/
def description : Operand → String
  | value v => v.description
  | foreign type => type

end Operand

end PlaneCalc

import PlaneCalc.Bindings

/-!
# A journal of bindings

Bindings under a sequence of requests, together with the snapshots taken of them. A snapshot keeps
what was bound when it was taken.
-/

namespace PlaneCalc

/-- Bindings, and the snapshots taken so far in order. -/
structure Journal where
  current : Bindings
  snapshots : List Bindings

namespace Journal

/-- What can be asked of a journal. -/
inductive Entry where
  | record (name : String) (v : Operand)
  | lookup (name : String)
  | contains (name : String)
  | size
  | names
  | clear
  | snapshot
  | recall (index : Nat)
  | describe
deriving DecidableEq

/-- What a journal answers. -/
inductive Answer where
  | nothing
  | flag (b : Bool)
  | count (n : Nat)
  | names (ns : List String)
  | operand (o : Operand)
  | fault (f : EvalFault)
  | bindings (b : Bindings)
  | description (text : String)

/-- A journal that begins with given bindings. -/
def ofBindings (b : Bindings) : Journal := ⟨b, []⟩

/-- The answer to an entry, and the journal after it. A snapshot is answered by its number. -/
def enter (j : Journal) : Entry → Answer × Journal
  | .record name v => (.nothing, { j with current := j.current.record name v })
  | .lookup name =>
    match j.current.lookup name with
    | .ok o => (.operand o, j)
    | .error f => (.fault f, j)
  | .contains name => (.flag (j.current.contains name), j)
  | .size => (.count j.current.size, j)
  | .names => (.names j.current.names, j)
  | .clear => (.nothing, { j with current := j.current.clear })
  | .snapshot => (.count j.snapshots.length, { j with snapshots := j.snapshots ++ [j.current] })
  | .recall index => (.bindings (j.snapshots.getD index .empty), j)
  | .describe => (.description j.current.description, j)

/-- The answers to entries in order. -/
def enterAll : Journal → List Entry → List Answer
  | _, [] => []
  | j, e :: rest =>
    let (answer, j') := j.enter e
    answer :: enterAll j' rest

end Journal

end PlaneCalc

import PlaneCalc.Session

/-!
# Several sessions side by side

Each session has a language and works on a store of bindings; sessions that name the same store share
it, and a session that names none has its own. A command addresses one session by its number, and its
outcome shows the result and the variables of that session afterwards.
-/

namespace PlaneCalc

/-- A store of bindings: one that several sessions may name, or a session's own. -/
inductive StoreId where
  | shared (number : Int)
  | own (session : Nat)
deriving DecidableEq

/-- A session's language and store. -/
structure Session where
  language : Language
  store : StoreId

/-- Something to be done in one of the sessions. -/
inductive Command where
  | exec (session : Nat) (line : String)
  | clear (session : Nat)
  | vars (session : Nat)
deriving DecidableEq

/-- The session that a command addresses. -/
def Command.session : Command → Nat
  | exec i _ => i
  | clear i => i
  | vars i => i

/-- What a command gives: the result of a line, if it ran one, and the variables afterwards. -/
structure Outcome where
  result : Option (Except Fault Operand)
  bindings : Bindings

/-- A command carried out in its session. -/
def Session.perform (s : Session) (b : Bindings) : Command → Outcome
  | .exec _ line =>
    let done := execute s.language b line
    ⟨some done.result, done.bindings⟩
  | .clear _ => ⟨none, b.clear⟩
  | .vars _ => ⟨none, b⟩

/-- Sessions, and the bindings in every store. -/
structure Workspace where
  sessions : List Session
  stores : StoreId → Bindings

namespace Workspace

/-- Sessions with the given languages, each on the shared store that it names or on its own; every
store is empty. -/
def ofDescriptions (descriptions : List (Language × Option Int)) : Workspace where
  sessions := descriptions.mapIdx fun i d => ⟨d.1, d.2.elim (.own i) .shared⟩
  stores := fun _ => .empty

/-- The workspace with the bindings of one store replaced. -/
def setStore (w : Workspace) (id : StoreId) (b : Bindings) : Workspace :=
  { w with stores := fun other => if other = id then b else w.stores other }

/-- One command: its outcome and the workspace afterwards. A command for a session that does not
exist has no outcome. -/
def step (w : Workspace) (c : Command) : Option Outcome × Workspace :=
  match w.sessions[c.session]? with
  | none => (none, w)
  | some s =>
    let outcome := s.perform (w.stores s.store) c
    (some outcome, w.setStore s.store outcome.bindings)

/-- The outcomes of commands in order. -/
def run : Workspace → List Command → List (Option Outcome)
  | _, [] => []
  | w, c :: rest =>
    let (outcome, w') := w.step c
    outcome :: run w' rest

end Workspace

end PlaneCalc

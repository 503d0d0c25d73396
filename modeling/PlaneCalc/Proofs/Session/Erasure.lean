import PlaneCalc.Proofs.Session.Commit
import PlaneCalc.Workspace

/-!
# Failed lines can be erased

A line that fails, or that gives the value of an expression, leaves the bindings exactly as they were,
and an assignment sets its target and nothing else. So a step of a script that ran such a line leaves
the whole workspace unchanged, and without it every other step has the same outcome. This holds
for sessions that share a store as well as for a single one.
-/

namespace PlaneCalc

/-! ## What a line does to the bindings -/

/-- The second bindings are the first with one name set: a new name is last, a bound one keeps its
place. -/
inductive Bindings.Sets (name : String) (v : Operand) : Bindings → Bindings → Prop where
  | appended {entries : List (String × Operand)} (h : name ∉ entries.map Prod.fst) :
      Sets name v ⟨entries⟩ ⟨entries ++ [(name, v)]⟩
  | replaced {before after : List (String × Operand)} {old : Operand}
      (h : name ∉ before.map Prod.fst) :
      Sets name v ⟨before ++ (name, old) :: after⟩ ⟨before ++ (name, v) :: after⟩

/-- Entries that have a name have a first one. -/
theorem Bindings.exists_first {name : String} {entries : List (String × Operand)}
    (h : name ∈ entries.map Prod.fst) :
    ∃ before old after, entries = before ++ (name, old) :: after ∧ name ∉ before.map Prod.fst := by
  obtain ⟨names, names', hsplit, hfirst⟩ := List.eq_append_cons_of_mem h
  obtain ⟨before, tail, rfl, rfl, htail⟩ := List.map_eq_append_iff.mp hsplit
  obtain ⟨⟨_, old⟩, after, rfl, rfl, _⟩ := List.map_eq_cons_iff.mp htail
  exact ⟨before, old, after, rfl, hfirst⟩

theorem Bindings.sets_record (b : Bindings) (name : String) (v : Operand) :
    Sets name v b (b.record name v) := by
  obtain ⟨entries⟩ := b
  by_cases h : name ∈ entries.map Prod.fst
  · obtain ⟨before, old, after, rfl, hbefore⟩ := exists_first h
    rw [record, setEntry_of_mem hbefore]
    exact .replaced hbefore
  · rw [record, setEntry_of_not_mem h]
    exact .appended h

section

variable {lang : Language} {b : Bindings} {line : String}

/-- A line that fails changes nothing. -/
theorem bindings_of_failed {f : Fault} (h : (execute lang b line).result = .error f) :
    (execute lang b line).bindings = b := by
  rw [execute_eq] at h ⊢
  cases hparse : parse lang line with
  | error f => rfl
  | ok s =>
    cases s with
    | expression e => rfl
    | assignment target value =>
      cases hvalue : value.evaluate b with
      | error f => simp [hvalue]
      | ok v => simp [hparse, hvalue] at h

/-- An expression changes nothing, whether it has a value or not. -/
theorem bindings_of_expression {e : Expr} (h : parse lang line = .ok (.expression e)) :
    (execute lang b line).bindings = b := by
  rw [execute_eq, h]

/-- A line that succeeds is an expression, or an assignment that sets its target. -/
theorem bindings_of_succeeded {v : Operand} (h : (execute lang b line).result = .ok v) :
    ((∃ e, parse lang line = .ok (.expression e)) ∧ (execute lang b line).bindings = b) ∨
      ∃ name value, parse lang line = .ok (.assignment name value) ∧
        Bindings.Sets name v b (execute lang b line).bindings := by
  cases hparse : parse lang line with
  | error f => simp [execute_eq, hparse] at h
  | ok s =>
    cases s with
    | expression e => exact .inl ⟨⟨e, rfl⟩, bindings_of_expression hparse⟩
    | assignment target value =>
      refine .inr ⟨target, value, rfl, ?_⟩
      rw [execute_eq, hparse] at h ⊢
      cases hvalue : value.evaluate b with
      | error f => simp [hvalue] at h
      | ok v' =>
        simp only [hvalue, Except.ok.injEq] at h
        subst h
        simpa only [hvalue] using b.sets_record target v'

end

/-! ## Steps that leave the workspace unchanged -/

namespace Workspace

/-- A step that ran a line which failed, or which succeeded without being an assignment. -/
inductive Erasable (sessions : List Session) : Command → Option Outcome → Prop where
  | failed {i : Nat} {line : String} {o : Outcome} {f : Fault} (ho : o.result = some (.error f)) :
      Erasable sessions (.exec i line) (some o)
  | expression {i : Nat} {line : String} {o : Outcome} {v : Operand} {s : Session} {e : Expr}
      (ho : o.result = some (.ok v)) (hs : sessions[i]? = some s)
      (he : parse s.language line = .ok (.expression e)) : Erasable sessions (.exec i line) (some o)

/-- Storing what a store holds changes nothing. -/
theorem setStore_self (w : Workspace) (id : StoreId) : w.setStore id (w.stores id) = w := by
  have hstores : (fun other => if other = id then w.stores id else w.stores other) = w.stores := by
    funext other
    split
    · rename_i h
      rw [h]
    · rfl
  rw [setStore, hstores]

theorem step_sessions (w : Workspace) (c : Command) : (w.step c).2.sessions = w.sessions := by
  unfold step
  split <;> rfl

/-- An erasable step leaves the workspace as it was. -/
theorem step_of_erasable {w : Workspace} {c : Command}
    (h : Erasable w.sessions c (w.step c).1) : (w.step c).2 = w := by
  cases c with
  | clear i => cases h
  | vars i => cases h
  | exec i line =>
    cases hs : w.sessions[i]? with
    | none => simp [step, Command.session, hs]
    | some s =>
      have hstep : w.step (.exec i line) =
          (some ⟨some (execute s.language (w.stores s.store) line).result,
            (execute s.language (w.stores s.store) line).bindings⟩,
          w.setStore s.store (execute s.language (w.stores s.store) line).bindings) := by
        simp [step, Command.session, hs, Session.perform]
      rw [hstep] at h ⊢
      have hsame : (execute s.language (w.stores s.store) line).bindings = w.stores s.store := by
        cases h with
        | failed ho => exact bindings_of_failed (Option.some.inj ho)
        | @expression _ _ _ _ s' e _ hs' he =>
          obtain rfl : s = s' := Option.some.inj (hs.symm.trans hs')
          exact bindings_of_expression he
      rw [hsame]
      exact w.setStore_self s.store

/-! ## Scripts with steps left out -/

/-- A list without the positions that are to be dropped. -/
def without {α : Type} (drop : Nat → Bool) : List α → List α
  | [] => []
  | a :: rest =>
    if drop 0 then without (fun i => drop (i + 1)) rest
    else a :: without (fun i => drop (i + 1)) rest

theorem map_without {α β : Type} (f : α → β) (drop : Nat → Bool) (l : List α) :
    (without drop l).map f = without drop (l.map f) := by
  induction l generalizing drop with
  | nil => rfl
  | cons a rest ih =>
    simp only [without, List.map_cons]
    split
    · exact ih _
    · rw [List.map_cons, ih]

theorem mem_of_mem_without {α : Type} {drop : Nat → Bool} {l : List α} {a : α}
    (h : a ∈ without drop l) : a ∈ l := by
  induction l generalizing drop with
  | nil => exact h
  | cons first rest ih =>
    simp only [without] at h
    split at h
    · exact List.mem_cons_of_mem _ (ih h)
    · rcases List.mem_cons.mp h with rfl | h
      · exact List.mem_cons_self
      · exact List.mem_cons_of_mem _ (ih h)

/-- Leaving out steps that are erasable in a run leaves out their outcomes and changes no other. -/
theorem run_without {w : Workspace} {script : List Command} {drop : Nat → Bool}
    (h : ∀ i c o, drop i = true → script[i]? = some c → (run w script)[i]? = some o →
      Erasable w.sessions c o) :
    run w (without drop script) = without drop (run w script) := by
  induction script generalizing w drop with
  | nil => rfl
  | cons c rest ih =>
    have hrest : run (w.step c).2 (without (fun i => drop (i + 1)) rest) =
        without (fun i => drop (i + 1)) (run (w.step c).2 rest) := by
      refine ih fun i c' o hdrop hc ho => ?_
      rw [step_sessions]
      exact h (i + 1) c' o hdrop hc ho
    by_cases hdrop : drop 0 = true
    · -- the dropped step left the workspace as it was, so the rest runs as if it had not been there
      have hstep : (w.step c).2 = w := step_of_erasable (h 0 c _ hdrop rfl rfl)
      rw [hstep] at hrest
      simp only [run, without, if_pos hdrop, hstep]
      exact hrest
    · simp only [run, without, if_neg hdrop, hrest]

/-- A failed line is atomic and can be erased. A line that fails leaves the bindings exactly as they
were, and so does an expression; an assignment sets its target to the result and nothing else.
Leaving out any of the steps of a script that ran a line of the first two kinds changes the outcome
of no other step. -/
theorem failed_lines_erasable :
    (∀ (lang : Language) (b : Bindings) (line : String),
      (∀ f, (execute lang b line).result = .error f → (execute lang b line).bindings = b) ∧
      ∀ v, (execute lang b line).result = .ok v →
        ((∃ e, parse lang line = .ok (.expression e)) ∧ (execute lang b line).bindings = b) ∨
          ∃ name value, parse lang line = .ok (.assignment name value) ∧
            Bindings.Sets name v b (execute lang b line).bindings) ∧
    ∀ (w : Workspace) (script : List Command) (drop : Nat → Bool),
      (∀ i c o, drop i = true → script[i]? = some c → (run w script)[i]? = some o →
        Erasable w.sessions c o) →
      run w (without drop script) = without drop (run w script) := by
  refine ⟨?_, ?_⟩
  · intro lang b line
    exact ⟨fun f => bindings_of_failed, fun v => bindings_of_succeeded⟩
  · intro w script drop h
    exact run_without h

/-- An undefined variable, a division by zero and an expression between an assignment and a look at
the variables. -/
theorem failed_lines_erasable_between :
    let w := ofDescriptions [(.standard, none)]
    let script := [Command.exec 0 "x = 1", .exec 0 "x = y", .exec 0 "x = x / 0", .exec 0 "x",
      .vars 0]
    let drop := fun i => decide (1 ≤ i ∧ i ≤ 3)
    run w [.exec 0 "x = 1", .vars 0] = without drop (run w script) := by
  intro w script drop
  have hresults : (run w script).map (fun o => o.bind Outcome.result) =
      [some (.ok (.value (.scalar (⟨false, ['1'], []⟩ : Numeral).toDouble))),
        some (.error (.evaluation (.undefined "y"))),
        some (.error (.evaluation (.divisionByZero "/" "right" none))),
        some (.ok (.value (.scalar (⟨false, ['1'], []⟩ : Numeral).toDouble))), none] := by
    decide +kernel
  refine failed_lines_erasable.2 w script drop fun i c o hdrop hc ho => ?_
  have hresult := congrArg (fun results => results[i]?) hresults
  rw [List.getElem?_map, ho] at hresult
  have hrange : 1 ≤ i ∧ i ≤ 3 := of_decide_eq_true hdrop
  obtain rfl | rfl | rfl : i = 1 ∨ i = 2 ∨ i = 3 := by omega
  all_goals
    obtain rfl := Option.some.inj hc
    obtain ⟨out, rfl, hout⟩ := Option.bind_eq_some_iff.mp (Option.some.inj hresult)
  · exact .failed hout
  · exact .failed hout
  · exact .expression (e := .reference "x") hout rfl (by decide +kernel)

end Workspace

end PlaneCalc

import PlaneCalc.Proofs.Evaluation.Recursion
import PlaneCalc.Proofs.Session.Commit

/-!
# Independent assignments commute

Two assignments of which neither refers to the target of the other can change places. Each of them
reads only variables that the other leaves alone, so each has the same result in both orders, also if
it fails; and each writes its own target and nothing else, so in the end every variable holds the same.
Only the order in which new variables were entered can differ.
-/

namespace PlaneCalc

/-! ## Recording two variables -/

namespace Bindings

/-- Setting two entries in either order gives the same entries, in another order if both are new. -/
theorem setEntry_comm {x y : String} (hxy : x ≠ y) (v w : Operand)
    (entries : List (String × Operand)) :
    (setEntry y w (setEntry x v entries)).Perm (setEntry x v (setEntry y w entries)) := by
  induction entries with
  | nil =>
    simp only [setEntry, if_neg hxy, if_neg hxy.symm]
    exact List.Perm.swap _ _ []
  | cons entry rest ih =>
    obtain ⟨n, o⟩ := entry
    by_cases hx : n = x
    · -- the entry of the first name is set in its place, and the second name goes further back
      subst hx
      simp only [setEntry, if_true, if_neg hxy]
      exact List.Perm.refl _
    · by_cases hy : n = y
      · subst hy
        simp only [setEntry, if_true, if_neg hx]
        exact List.Perm.refl _
      · simp only [setEntry, if_neg hx, if_neg hy]
        exact ih.cons (n, o)

theorem find?_record_comm {x y : String} (hxy : x ≠ y) (v w : Operand) (b : Bindings)
    (name : String) :
    ((b.record x v).record y w).find? name = ((b.record y w).record x v).find? name := by
  simp only [find?_record]
  by_cases hx : name = x
  · rw [if_pos hx, if_neg (hx ▸ hxy), if_pos hx]
  · rw [if_neg hx, if_neg hx]

/-- The same mapping from names to what they hold: no name holds something else, and no entry is there
in one and not in the other. -/
structure SameMapping (b b' : Bindings) : Prop where
  find? : ∀ name, b.find? name = b'.find? name
  entries : b.entries.Perm b'.entries

theorem SameMapping.refl (b : Bindings) : SameMapping b b := ⟨fun _ => rfl, List.Perm.refl _⟩

theorem sameMapping_record_comm {x y : String} (hxy : x ≠ y) (v w : Operand) (b : Bindings) :
    SameMapping ((b.record x v).record y w) ((b.record y w).record x v) where
  find? := find?_record_comm hxy v w b
  entries := setEntry_comm hxy v w b.entries

end Bindings

/-! ## Assignments -/

namespace Statement

/-- An assignment to a variable that an expression does not refer to makes no difference to it, whether
the assignment succeeds or not. -/
theorem evaluate_after_assignment {target : String} {e : Expr} (h : target ∉ e.names)
    (value : Expr) (b : Bindings) :
    e.evaluate ((assignment target value).evaluate b).2 = e.evaluate b := by
  rcases hvalue : value.evaluate b with f | v
  · rw [bindings_of_fault hvalue]
  · rw [bindings_of_value hvalue, Expr.evaluate_record_of_not_mem b h]

/-- The bindings after two independent assignments are the same mapping in both orders. -/
theorem sameMapping_of_independent {x y : String} {e₁ e₂ : Expr} (hxy : x ≠ y) (hx : x ∉ e₂.names)
    (hy : y ∉ e₁.names) (b : Bindings) :
    Bindings.SameMapping
      ((assignment y e₂).evaluate ((assignment x e₁).evaluate b).2).2
      ((assignment x e₁).evaluate ((assignment y e₂).evaluate b).2).2 := by
  have hfirst := evaluate_after_assignment hy e₂ b
  have hsecond := evaluate_after_assignment hx e₁ b
  rcases hv : e₁.evaluate b with f | v
  · -- the first assignment fails in both orders, and is as good as left out
    rw [bindings_of_fault (hfirst.trans hv), bindings_of_fault hv]
    exact Bindings.SameMapping.refl _
  · rcases hw : e₂.evaluate b with f | w
    · rw [bindings_of_fault (hsecond.trans hw), bindings_of_fault hw]
      exact Bindings.SameMapping.refl _
    · rw [bindings_of_value (hfirst.trans hv), bindings_of_value (hsecond.trans hw),
        bindings_of_value hv, bindings_of_value hw]
      exact Bindings.sameMapping_record_comm hxy v w b

end Statement

/-- Assignments of which neither refers to the target of the other commute: each line has the same
result in both orders, a value or a fault, and every variable holds the same in the end. -/
theorem independent_assignments_commute (lang : Language) (b : Bindings)
    (line₁ line₂ x y : String) (e₁ e₂ : Expr)
    (h₁ : parse lang line₁ = .ok (.assignment x e₁))
    (h₂ : parse lang line₂ = .ok (.assignment y e₂))
    (hxy : x ≠ y) (hx : x ∉ e₂.names) (hy : y ∉ e₁.names) :
    let first := execute lang b line₁
    let second := execute lang b line₂
    (execute lang first.bindings line₂).result = second.result ∧
      (execute lang second.bindings line₁).result = first.result ∧
      Bindings.SameMapping (execute lang first.bindings line₂).bindings
        (execute lang second.bindings line₁).bindings := by
  intro first second
  have hfirst : first.bindings = ((Statement.assignment x e₁).evaluate b).2 :=
    bindings_of_assignment h₁ b
  have hsecond : second.bindings = ((Statement.assignment y e₂).evaluate b).2 :=
    bindings_of_assignment h₂ b
  refine ⟨?_, ?_, ?_⟩
  · rw [hfirst, execute_of_parse h₂, execute_of_parse h₂, Statement.body,
      Statement.evaluate_after_assignment hx]
  · rw [hsecond, execute_of_parse h₁, execute_of_parse h₁, Statement.body,
      Statement.evaluate_after_assignment hy]
  · rw [hfirst, hsecond, bindings_of_assignment h₁, bindings_of_assignment h₂]
    exact Statement.sameMapping_of_independent hxy hx hy b

/-- Two new variables that read the same old one: they hold the same in both orders, but stand in another
order themselves. -/
theorem independent_assignments_commute_on_new_names :
    let one : Value := .scalar (⟨false, ['1'], []⟩ : Numeral).toDouble
    let b : Bindings := ⟨[("a", .value one)]⟩
    let b₁ := (execute .standard (execute .standard b "x = a + 1").bindings "y = a * a").bindings
    let b₂ := (execute .standard (execute .standard b "y = a * a").bindings "x = a + 1").bindings
    b₁.names = ["a", "x", "y"] ∧ b₂.names = ["a", "y", "x"] ∧ Bindings.SameMapping b₁ b₂ := by
  intro one b b₁ b₂
  let e₁ : Expr := .binary .add (.reference "a") (.literal one)
  let e₂ : Expr := .binary .mul (.reference "a") (.reference "a")
  have hparse₁ : parse .standard "x = a + 1" = .ok (.assignment "x" e₁) := by decide +kernel
  have hparse₂ : parse .standard "y = a * a" = .ok (.assignment "y" e₂) := by decide +kernel
  refine ⟨by decide +kernel, by decide +kernel, ?_⟩
  exact (independent_assignments_commute .standard b _ _ "x" "y" e₁ e₂ hparse₁ hparse₂
    (by decide) (by decide) (by decide)).2.2

end PlaneCalc

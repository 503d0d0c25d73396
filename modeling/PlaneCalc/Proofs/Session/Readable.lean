import PlaneCalc.Proofs.Evaluation.Componentwise
import PlaneCalc.Proofs.Grammar.RoundTrip
import PlaneCalc.Proofs.Session.Isolation

/-!
# What lines record can be read

The bindings that lines make have names of the grammar, each once, and hold scalars and vectors. That
is so because a target is a name that the grammar found, and because the values of expressions over
such bindings are values. A line that is such a name and nothing else therefore shows what the name
holds: it begins like an assignment, but no symbol follows, so it is read as an expression.
-/

namespace PlaneCalc

/-! ## Bindings that lines make -/

/-- Bindings with names of the grammar, each once, that hold scalars and vectors. -/
structure Bindings.Readable (b : Bindings) : Prop where
  distinct : b.names.Nodup
  spelled : ∀ name ∈ b.names, Grammar.IsName name.toList
  values : b.HoldsValues

namespace Bindings

theorem readable_empty : empty.Readable :=
  ⟨List.nodup_nil, by simp [names, empty], by simp [HoldsValues, empty]⟩

/-- Setting a name to a value keeps the others. -/
theorem HoldsValues.of_sets {b b' : Bindings} (hb : b.HoldsValues) {name : String} {v : Value}
    (h : Sets name (.value v) b b') : b'.HoldsValues := by
  intro p hp
  have hsplit : p = (name, .value v) ∨ p ∈ b.entries := by
    rcases h with ⟨_⟩ | ⟨_⟩
    · exact (List.mem_append.mp hp).symm.imp List.mem_singleton.mp id
    · rcases List.mem_append.mp hp with hbefore | hrest
      · exact .inr (List.mem_append_left _ hbefore)
      · exact (List.mem_cons.mp hrest).imp id fun hafter =>
          List.mem_append_right _ (List.mem_cons_of_mem _ hafter)
  rcases hsplit with rfl | hold
  · exact ⟨v, rfl⟩
  · exact hb p hold

theorem Readable.record {b : Bindings} (hb : b.Readable) {name : String}
    (hname : Grammar.IsName name.toList) (v : Value) : (b.record name (.value v)).Readable where
  distinct := nodup_names_record hb.distinct name _
  spelled := by
    intro other hother
    rw [names_record] at hother
    split at hother
    · exact hb.spelled other hother
    · rcases List.mem_append.mp hother with hold | hnew
      · exact hb.spelled other hold
      · rw [List.mem_singleton.mp hnew]
        exact hname
  values := hb.values.of_sets (b.sets_record name (.value v))

/-- Running a line keeps bindings readable, whether it fails or not. -/
theorem Readable.execute {b : Bindings} (hb : b.Readable) (lang : Language) (line : String) :
    (execute lang b line).bindings.Readable := by
  rw [execute_eq]
  rcases hparse : parse lang line with f | (e | ⟨target, value⟩)
  · exact hb
  · exact hb
  · rcases hvalue : value.evaluate b with f | o
    · simpa only [hvalue] using hb
    · have hsentence := Grammar.sentence_of_line (Grammar.parse_eq_ok_iff.mp hparse)
      have htarget := Grammar.isName_of_sentence hsentence target List.mem_cons_self
      obtain ⟨v, rfl, _⟩ := Expr.isVector_of_evaluateWithin hb.values hvalue
      simpa only [hvalue] using hb.record htarget v

theorem Readable.perform {b : Bindings} (hb : b.Readable) (s : Session) (c : Command) :
    (s.perform b c).bindings.Readable := by
  rcases c with ⟨i, line⟩ | i | i
  · exact hb.execute s.language line
  · exact readable_empty
  · exact hb

end Bindings

namespace Workspace

/-- Commands keep every store readable. -/
theorem readable_step {w : Workspace} (h : ∀ id, (w.stores id).Readable) (c : Command) :
    ∀ id, ((w.step c).2.stores id).Readable := by
  intro id
  by_cases hc : storeOf w.sessions c = some id
  · obtain ⟨s, hs, rfl⟩ := exists_session_of_storeOf hc
    rw [step_of_session hs, setStore_stores, if_pos rfl]
    exact (h s.store).perform s c
  · rw [stores_step_of_ne hc]
    exact h id

/-- Scripts keep every store readable. -/
theorem readable_after {w : Workspace} (h : ∀ id, (w.stores id).Readable) (script : List Command) :
    ∀ id, ((w.after script).stores id).Readable := by
  induction script generalizing w with
  | nil => exact h
  | cons c rest ih => exact ih (readable_step h c)

end Workspace

/-! ## Lines that are names -/

/-- A name is read as a reference in every language. -/
theorem Grammar.parse_name (lang : Language) {name : String} (h : IsName name.toList) :
    parse lang name = .ok (.expression (.reference name)) := by
  have hderives := (Derives.name h).toSum
  rw [String.ofList_toList, ← compact_name h] at hderives
  refine parse_eq_ok_iff.mpr (line_of_sentence (.expression hderives) ?_)
  rw [compact_name h, (flat_of_isName h).groupDepth_eq_zero]
  exact Nat.zero_le groupLimit

/-- A name shows what it holds and changes nothing. -/
theorem execute_name (lang : Language) (b : Bindings) {name : String}
    (h : Grammar.IsName name.toList) :
    execute lang b name = ⟨(b.lookup name).mapError .evaluation, b, [.executing name]⟩ := by
  rw [execute_eq, Grammar.parse_name lang h]
  show Execution.mk ((Expr.evaluate b (.reference name)).mapError .evaluation) b _ = _
  rw [Expr.evaluate, Expr.evaluateWithin_reference]

/-- Whatever lines were run, what they recorded can be read. In sessions that begin with nothing bound,
the bindings have names of the grammar after every script, each once, and hold scalars and vectors;
a line that is a bound name shows what it holds, one that is an unbound name is reported as
undefined, and neither changes anything. -/
theorem recorded_names_readable (descriptions : List (Language × Option Int))
    (script : List Command) (id : StoreId) (lang : Language) :
    let b := ((Workspace.ofDescriptions descriptions).after script).stores id
    (b.names.Nodup ∧
      ∀ p ∈ b.entries, Grammar.IsName p.1.toList ∧ ∃ v : Value, p.2 = .value v) ∧
    ∀ name : String, Grammar.IsName name.toList →
      (∀ o, (name, o) ∈ b.entries → execute lang b name = ⟨.ok o, b, [.executing name]⟩) ∧
      (name ∉ b.names →
        execute lang b name =
          ⟨.error (.evaluation (.undefined name)), b, [.executing name]⟩) := by
  intro b
  have hb : b.Readable := Workspace.readable_after (fun _ => Bindings.readable_empty) script id
  refine ⟨⟨hb.distinct, fun p hp => ⟨?_, hb.values p hp⟩⟩, fun name hname => ⟨?_, ?_⟩⟩
  · exact hb.spelled p.1 (List.mem_map_of_mem hp)
  · intro o ho
    have hfind := (Bindings.mem_entries_iff hb.distinct).mp ho
    rw [execute_name lang b hname, Bindings.lookup, hfind]
    rfl
  · intro hfree
    have hfind := Bindings.find?_eq_none_iff.mpr hfree
    rw [execute_name lang b hname, Bindings.lookup, hfind]
    rfl

/-- A name that was recorded and one that was not, after a line that failed and a clearing. -/
theorem recorded_names_readable_after_failure :
    let script := [Command.exec 0 "ab = 7", .clear 0, .exec 0 "v = [1, 1]", .exec 0 "ab = v + c"]
    let b := ((Workspace.ofDescriptions [(.standard, none)]).after script).stores (.own 0)
    let one := (⟨false, ['1'], []⟩ : Numeral).toDouble
    ("v", .value (.vector one one)) ∈ b.entries ∧ "ab" ∉ b.names ∧
      execute .standard b "v" = ⟨.ok (.value (.vector one one)), b, [.executing "v"]⟩ ∧
      execute .standard b "ab" =
        ⟨.error (.evaluation (.undefined "ab")), b, [.executing "ab"]⟩ := by
  intro script b one
  have hentries : b.entries = [("v", .value (.vector one one))] := by decide +kernel
  have hbound : ("v", .value (.vector one one)) ∈ b.entries := by rw [hentries]; simp
  have hfree : "ab" ∉ b.names := by simp [Bindings.names, hentries]
  obtain ⟨_, hnames⟩ := recorded_names_readable [(.standard, none)] script (.own 0) .standard
  refine ⟨hbound, hfree, (hnames "v" ?_).1 _ hbound, (hnames "ab" ?_).2 hfree⟩
  · exact ⟨by simp, by simp⟩
  · exact ⟨by simp, by simp⟩

end PlaneCalc

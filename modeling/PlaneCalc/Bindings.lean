import PlaneCalc.Arithmetic
import PlaneCalc.Text.Quoted

/-!
# Bindings

The variables of a session and what they hold, in the order in which they were first recorded.
Recording a bound name again changes what it holds and keeps its place; names are forgotten only all
at once. A snapshot is a value like any other, so nothing that happens later changes it.

Reference: `vecalc.core.expression_lang.bindings`.
-/

namespace PlaneCalc

/-- Variables and what they hold, in order. -/
structure Bindings where
  entries : List (String × Operand)
deriving DecidableEq

namespace Bindings

/-- No variables. -/
def empty : Bindings := ⟨[]⟩

instance : Inhabited Bindings := ⟨empty⟩

/-- The bound names, in order. -/
def names (b : Bindings) : List String := b.entries.map Prod.fst

/-- What a name holds, if it is bound. -/
def find? (b : Bindings) (name : String) : Option Operand := b.entries.lookup name

/-- Whether a name is bound. -/
def contains (b : Bindings) (name : String) : Bool := b.names.contains name

/-- The number of bound names. -/
def size (b : Bindings) : Nat := b.entries.length

/-- What a name holds; an unbound name is a fault. -/
def lookup (b : Bindings) (name : String) : Except EvalFault Operand :=
  match b.find? name with
  | none => .error (.undefined name)
  | some v => .ok v

/-- Entries with a name set: in its place if it is there, at the end if not. -/
def setEntry (name : String) (v : Operand) : List (String × Operand) → List (String × Operand)
  | [] => [(name, v)]
  | (n, w) :: rest => if n = name then (n, v) :: rest else (n, w) :: setEntry name v rest

/-- The bindings after a name is recorded. -/
def record (b : Bindings) (name : String) (v : Operand) : Bindings := ⟨setEntry name v b.entries⟩

/-- The bindings after pairs are recorded one by one. -/
def ofList (pairs : List (String × Operand)) : Bindings :=
  pairs.foldl (fun b p => b.record p.1 p.2) empty

/-- The bindings after everything is forgotten. -/
def clear (_ : Bindings) : Bindings := empty

/-- The entries by name. -/
def sortedEntries (b : Bindings) : List (String × Operand) :=
  b.entries.mergeSort fun p q => p.1 ≤ q.1

/-- The bindings with the names of all parts. -/
def description (b : Bindings) : String :=
  "Bindings(\x7b" ++
    ", ".intercalate (b.entries.map fun p => Text.Quoted.encode p.1 ++ ": " ++ p.2.description) ++
    "\x7d)"

/-! ## What recording does -/

/-- The first entry decides if it has the name. -/
theorem lookup_entry_cons (n other : String) (w : Operand) (entries : List (String × Operand)) :
    ((n, w) :: entries).lookup other = if other = n then some w else entries.lookup other := by
  by_cases h : other = n
  · simp [h]
  · simp [List.lookup_cons, beq_false_of_ne h, h]

/-- Setting an entry sets it and nothing else. -/
theorem lookup_setEntry (name other : String) (v : Operand) (entries : List (String × Operand)) :
    (setEntry name v entries).lookup other = if other = name then some v else entries.lookup other := by
  induction entries with
  | nil => exact lookup_entry_cons name other v []
  | cons entry rest ih =>
    obtain ⟨n, w⟩ := entry
    by_cases hn : n = name
    · subst hn
      by_cases ho : other = n <;> simp [setEntry, lookup_entry_cons, ho]
    · by_cases ho : other = n
      · subst ho
        simp [setEntry, hn]
      · simp [setEntry, lookup_entry_cons, hn, ho, ih]

/-- Setting an entry keeps every name in its place and puts a new one last. -/
theorem map_fst_setEntry (name : String) (v : Operand) (entries : List (String × Operand)) :
    (setEntry name v entries).map Prod.fst =
      if name ∈ entries.map Prod.fst then entries.map Prod.fst
      else entries.map Prod.fst ++ [name] := by
  induction entries with
  | nil => rfl
  | cons entry rest ih =>
    obtain ⟨n, w⟩ := entry
    by_cases hn : n = name
    · simp [setEntry, hn]
    · have hn' : ¬ name = n := fun h => hn h.symm
      by_cases hm : name ∈ rest.map Prod.fst
      · rw [if_pos hm] at ih
        rw [if_pos (by simp only [List.map_cons, List.mem_cons]; exact Or.inr hm)]
        simp only [setEntry, if_neg hn, List.map_cons, ih]
      · rw [if_neg hm] at ih
        rw [if_neg (by simp only [List.map_cons, List.mem_cons]; exact fun h => h.elim hn' hm)]
        simp only [setEntry, if_neg hn, List.map_cons, ih, List.cons_append]

/-- An entry with a new name comes last. -/
theorem setEntry_of_not_mem {name : String} {entries : List (String × Operand)}
    (h : name ∉ entries.map Prod.fst) (v : Operand) :
    setEntry name v entries = entries ++ [(name, v)] := by
  induction entries with
  | nil => rfl
  | cons entry rest ih =>
    obtain ⟨n, w⟩ := entry
    rw [List.map_cons, List.mem_cons, not_or] at h
    rw [setEntry, if_neg fun hn => h.1 hn.symm, ih h.2]
    rfl

/-- The first entry with a name is set where it stands. -/
theorem setEntry_of_mem {name : String} {before : List (String × Operand)}
    (h : name ∉ before.map Prod.fst) (old v : Operand) (after : List (String × Operand)) :
    setEntry name v (before ++ (name, old) :: after) = before ++ (name, v) :: after := by
  induction before with
  | nil => exact if_pos rfl
  | cons entry rest ih =>
    obtain ⟨n, w⟩ := entry
    rw [List.map_cons, List.mem_cons, not_or] at h
    rw [List.cons_append, setEntry, if_neg fun hn => h.1 hn.symm, ih h.2]
    rfl

/-- Nothing is bound at first. -/
@[simp] theorem find?_empty (name : String) : empty.find? name = none := rfl

/-- Recording a name changes what it holds and nothing else. -/
@[simp] theorem find?_record (b : Bindings) (name other : String) (v : Operand) :
    (b.record name v).find? other = if other = name then some v else b.find? other :=
  lookup_setEntry name other v b.entries

/-- Recording a name keeps the order of the names and puts a new one last. -/
theorem names_record (b : Bindings) (name : String) (v : Operand) :
    (b.record name v).names = if name ∈ b.names then b.names else b.names ++ [name] :=
  map_fst_setEntry name v b.entries

/-! ## Bindings as mappings -/

/-- A name without an entry holds nothing. -/
theorem find?_eq_none_iff {b : Bindings} {name : String} : b.find? name = none ↔ name ∉ b.names := by
  rw [find?, List.lookup_eq_none_iff]
  constructor
  · intro h hmem
    obtain ⟨p, hp, rfl⟩ := List.mem_map.mp hmem
    simpa using h p hp
  · intro h p hp
    exact bne_iff_ne.mpr fun heq => h (List.mem_map.mpr ⟨p, hp, heq.symm⟩)

/-- A name with an entry holds something. -/
theorem mem_names_iff {b : Bindings} {name : String} :
    name ∈ b.names ↔ ∃ v, b.find? name = some v := by
  rw [← Option.ne_none_iff_exists', ne_eq, find?_eq_none_iff, Decidable.not_not]

/-- Where no name has two entries, an entry is what its name holds. -/
theorem mem_entries_iff {b : Bindings} (hb : b.names.Nodup) {name : String} {v : Operand} :
    (name, v) ∈ b.entries ↔ b.find? name = some v := by
  rw [find?, List.lookup_eq_some_iff]
  constructor
  · intro h
    obtain ⟨before, after, hsplit⟩ := List.append_of_mem h
    refine ⟨before, after, hsplit, fun p hp => bne_iff_ne.mpr ?_⟩
    rintro rfl
    rw [names, hsplit, List.map_append, List.map_cons, List.nodup_append] at hb
    exact hb.2.2 p.1 (List.mem_map_of_mem hp) p.1 List.mem_cons_self rfl
  · rintro ⟨before, after, hsplit, _⟩
    rw [hsplit]
    exact List.mem_append_right before List.mem_cons_self

/-- Recording gives no name a second entry. -/
theorem nodup_names_record {b : Bindings} (hb : b.names.Nodup) (name : String) (v : Operand) :
    (b.record name v).names.Nodup := by
  rw [names_record]
  split
  · exact hb
  · rename_i hnew
    refine List.nodup_append.mpr ⟨hb, by simp, ?_⟩
    intro old hold new hmem heq
    rw [List.mem_singleton.mp hmem] at heq
    exact hnew (heq ▸ hold)

end Bindings

end PlaneCalc

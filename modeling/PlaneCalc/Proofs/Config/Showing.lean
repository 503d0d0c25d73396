import PlaneCalc.Setting

/-!
# What can be shown of a setting

Whether a setting can be shown does not depend on where in it a value stands: there has to be room for
all its layers, and every integer in it, however deep inside, has to have few enough digits (`Fits`).
`exists_shown_iff_fits` says that this is exactly what is needed.
-/

namespace PlaneCalc.Setting

/-! ## Layers and integers -/

mutual

/-- The number of layers of a setting: an array or a table is a layer around what it contains. -/
def layers : Setting → Nat
  | array items => itemLayers items + 1
  | table fields => fieldLayers fields + 1
  | moment m => m.layers
  | _ => 1

/-- The greatest number of layers of an item. -/
def itemLayers : List Setting → Nat
  | [] => 0
  | s :: rest => max s.layers (itemLayers rest)

/-- The greatest number of layers of a field. -/
def fieldLayers : List (String × Setting) → Nat
  | [] => 0
  | (_, s) :: rest => max s.layers (fieldLayers rest)

end

mutual

/-- The integers in a setting, in the order of its text. -/
def integers : Setting → List Int
  | integer n => [n]
  | array items => itemIntegers items
  | table fields => fieldIntegers fields
  | _ => []

/-- The integers in the items of an array. -/
def itemIntegers : List Setting → List Int
  | [] => []
  | s :: rest => s.integers ++ itemIntegers rest

/-- The integers in the fields of a table. -/
def fieldIntegers : List (String × Setting) → List Int
  | [] => []
  | (_, s) :: rest => s.integers ++ fieldIntegers rest

end

/-- A setting is within the limits: there is room for its layers, and its integers have few enough
digits. -/
structure Fits (digits room : Nat) (s : Setting) : Prop where
  layers : s.layers ≤ room
  integers : ∀ n ∈ s.integers, n.natAbs < Nat.pow 10 digits

theorem layers_pos (s : Setting) : 0 < s.layers := by
  cases s with
  | moment m =>
    rw [layers, Moment.layers.eq_def]
    split
    · split <;> decide
    · decide
  | array items => exact Nat.succ_pos _
  | table fields => exact Nat.succ_pos _
  | _ => exact Nat.one_pos

/-! ## Showing succeeds within the limits -/

section

variable {ε α β γ : Type} {first : Except ε α} {second : Except ε β}

theorem exists_map_eq_ok_iff {f : α → γ} :
    (∃ c, (do let a ← first; return f a) = .ok c) ↔ ∃ a, first = .ok a := by
  cases first <;> simp [bind, Except.bind, pure, Except.pure]

theorem exists_both_eq_ok_iff {f : α → β → γ} :
    (∃ c, (do let a ← first; let b ← second; return f a b) = .ok c) ↔
      (∃ a, first = .ok a) ∧ ∃ b, second = .ok b := by
  cases first <;> cases second <;> simp [bind, Except.bind, pure, Except.pure]

end

mutual

theorem exists_display_eq_ok_iff (digits : Nat) : ∀ (s : Setting) (room : Nat),
    (∃ text, s.display digits room = .ok text) ↔
      s.layers ≤ room ∧ ∀ n ∈ s.integers, n.natAbs < Nat.pow 10 digits
  | s, 0 => by
    have hlayers : ¬ s.layers ≤ 0 := Nat.not_le_of_gt s.layers_pos
    simp [display, hlayers]
  | null, room + 1 => by simp [display, layers, integers]
  | bool b, room + 1 => by simp [display, layers, integers]
  | float x, room + 1 => by simp [display, layers, integers]
  | string s, room + 1 => by simp [display, layers, integers]
  | integer n, room + 1 => by
    rw [display]
    split <;> simp_all [layers, integers]
  | moment m, room + 1 => by
    rw [display]
    split <;> simp_all [layers, integers]
  | array items, room + 1 => by
    rw [display, exists_map_eq_ok_iff, exists_displayItems_eq_ok_iff digits items room, layers,
      integers, Nat.add_le_add_iff_right]
  | table fields, room + 1 => by
    rw [display, exists_map_eq_ok_iff, exists_displayFields_eq_ok_iff digits fields room, layers,
      integers, Nat.add_le_add_iff_right]

theorem exists_displayItems_eq_ok_iff (digits : Nat) : ∀ (items : List Setting) (room : Nat),
    (∃ texts, displayItems digits items room = .ok texts) ↔
      itemLayers items ≤ room ∧ ∀ n ∈ itemIntegers items, n.natAbs < Nat.pow 10 digits
  | [], room => by simp [displayItems, itemLayers, itemIntegers]
  | s :: rest, room => by
    rw [displayItems, exists_both_eq_ok_iff, exists_display_eq_ok_iff digits s room,
      exists_displayItems_eq_ok_iff digits rest room, itemLayers, itemIntegers, Nat.max_le,
      List.forall_mem_append, and_and_and_comm]

theorem exists_displayFields_eq_ok_iff (digits : Nat) :
    ∀ (fields : List (String × Setting)) (room : Nat),
    (∃ texts, displayFields digits fields room = .ok texts) ↔
      fieldLayers fields ≤ room ∧ ∀ n ∈ fieldIntegers fields, n.natAbs < Nat.pow 10 digits
  | [], room => by simp [displayFields, fieldLayers, fieldIntegers]
  | (key, s) :: rest, room => by
    rw [displayFields, exists_both_eq_ok_iff, exists_display_eq_ok_iff digits s room,
      exists_displayFields_eq_ok_iff digits rest room, fieldLayers, fieldIntegers, Nat.max_le,
      List.forall_mem_append, and_and_and_comm]

end

/-- A setting can be shown exactly if it is within the limits. -/
theorem exists_shown_iff_fits {limits : Limits} {key : String} {s : Setting} :
    (∃ text, s.shown limits key = .ok text) ↔ s.Fits limits.digits (limits.showing key) := by
  rw [shown, exists_display_eq_ok_iff]
  exact ⟨fun h => ⟨h.1, h.2⟩, fun h => ⟨h.layers, h.integers⟩⟩

end PlaneCalc.Setting

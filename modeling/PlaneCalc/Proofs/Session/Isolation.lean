import PlaneCalc.Proofs.Session.Erasure

/-!
# Sessions meet only in their stores

A command reads and writes the store of its session and no other. Seen from one store, a script is
therefore the same as the script without the commands of all other stores: `outcomesOn_eq` runs both
side by side and keeps the one invariant that the two workspaces agree on that store. What a command
reports is what its store holds afterwards, whichever session asks for it, so sessions on one store
cannot be told apart by their variables.
-/

namespace PlaneCalc.Workspace

/-! ## The store of a command -/

/-- The store that a command works on; a command for a session that does not exist has none. -/
def storeOf (sessions : List Session) (c : Command) : Option StoreId :=
  sessions[c.session]?.map Session.store

/-- Whether a command works on a store. -/
def worksOn (sessions : List Session) (id : StoreId) (c : Command) : Bool :=
  decide (storeOf sessions c = some id)

theorem worksOn_iff {sessions : List Session} {id : StoreId} {c : Command} :
    worksOn sessions id c = true ↔ storeOf sessions c = some id :=
  decide_eq_true_iff

/-- The outcomes of the commands of a script that work on a store. -/
def outcomesOn (w : Workspace) (id : StoreId) (script : List Command) : List (Option Outcome) :=
  ((script.zip (w.run script)).filter fun p => worksOn w.sessions id p.1).map Prod.snd

/-- The workspace after a script. -/
def after (w : Workspace) (script : List Command) : Workspace :=
  script.foldl (fun w c => (w.step c).2) w

@[simp] theorem setStore_sessions (w : Workspace) (id : StoreId) (b : Bindings) :
    (w.setStore id b).sessions = w.sessions := rfl

@[simp] theorem setStore_stores (w : Workspace) (id other : StoreId) (b : Bindings) :
    (w.setStore id b).stores other = if other = id then b else w.stores other := rfl

theorem step_of_session {w : Workspace} {c : Command} {s : Session}
    (h : w.sessions[c.session]? = some s) :
    w.step c = (some (s.perform (w.stores s.store) c),
      w.setStore s.store (s.perform (w.stores s.store) c).bindings) := by
  rw [step, h]

theorem exists_session_of_storeOf {sessions : List Session} {c : Command} {id : StoreId}
    (h : storeOf sessions c = some id) :
    ∃ s, sessions[c.session]? = some s ∧ s.store = id :=
  Option.map_eq_some_iff.mp h

/-- A command leaves every store as it was but its own. -/
theorem stores_step_of_ne {w : Workspace} {c : Command} {id : StoreId}
    (h : storeOf w.sessions c ≠ some id) : (w.step c).2.stores id = w.stores id := by
  unfold storeOf at h
  rcases hs : w.sessions[c.session]? with _ | s
  · rw [step, hs]
  · rw [hs] at h
    have hid : id ≠ s.store := fun heq => h (congrArg some heq.symm)
    rw [step_of_session hs, setStore_stores, if_neg hid]

/-- What a command reports is what its store holds afterwards. -/
theorem stores_step_of_eq {w : Workspace} {c : Command} {id : StoreId}
    (h : storeOf w.sessions c = some id) :
    ∃ o, (w.step c).1 = some o ∧ (w.step c).2.stores id = o.bindings := by
  obtain ⟨s, hs, rfl⟩ := exists_session_of_storeOf h
  refine ⟨s.perform (w.stores s.store) c, ?_, ?_⟩
  · rw [step_of_session hs]
  · rw [step_of_session hs, setStore_stores, if_pos rfl]

/-! ## Scripts step by step -/

theorem run_cons (w : Workspace) (c : Command) (rest : List Command) :
    w.run (c :: rest) = (w.step c).1 :: (w.step c).2.run rest := rfl

theorem outcomesOn_cons_of_eq {w : Workspace} {c : Command} {id : StoreId}
    (h : storeOf w.sessions c = some id) (rest : List Command) :
    w.outcomesOn id (c :: rest) = (w.step c).1 :: (w.step c).2.outcomesOn id rest := by
  have hworks := worksOn_iff.mpr h
  unfold outcomesOn
  rw [run_cons, List.zip_cons_cons, step_sessions, List.filter_cons_of_pos (by exact hworks),
    List.map_cons]

theorem outcomesOn_cons_of_ne {w : Workspace} {c : Command} {id : StoreId}
    (h : storeOf w.sessions c ≠ some id) (rest : List Command) :
    w.outcomesOn id (c :: rest) = (w.step c).2.outcomesOn id rest := by
  have hworks := worksOn_iff.not.mpr h
  unfold outcomesOn
  rw [run_cons, List.zip_cons_cons, step_sessions, List.filter_cons_of_neg (by exact hworks)]

theorem sessions_after (w : Workspace) (script : List Command) :
    (w.after script).sessions = w.sessions := by
  induction script generalizing w with
  | nil => rfl
  | cons c rest ih => exact (ih (w.step c).2).trans (w.step_sessions c)

theorem run_append (w : Workspace) (first second : List Command) :
    w.run (first ++ second) = w.run first ++ (w.after first).run second := by
  induction first generalizing w with
  | nil => rfl
  | cons c rest ih =>
    rw [List.cons_append, run_cons, run_cons, ih, List.cons_append]
    rfl

/-! ## Two workspaces that agree on a store -/

/-- Two workspaces with the same sessions, whose bindings in one store are the same. -/
structure AgreeOn (id : StoreId) (w w' : Workspace) : Prop where
  sessions : w.sessions = w'.sessions
  store : w.stores id = w'.stores id

namespace AgreeOn

variable {id : StoreId} {w w' : Workspace} {c : Command}

/-- A command elsewhere cannot be noticed. -/
theorem step_elsewhere (h : AgreeOn id w w') (hc : storeOf w.sessions c ≠ some id) :
    AgreeOn id (w.step c).2 w' where
  sessions := (w.step_sessions c).trans h.sessions
  store := (stores_step_of_ne hc).trans h.store

/-- A command here has the same outcome in both, and they go on agreeing. -/
theorem step_here (h : AgreeOn id w w') (hc : storeOf w.sessions c = some id) :
    (w.step c).1 = (w'.step c).1 ∧ AgreeOn id (w.step c).2 (w'.step c).2 := by
  obtain ⟨s, hs, rfl⟩ := exists_session_of_storeOf hc
  have hs' : w'.sessions[c.session]? = some s := h.sessions ▸ hs
  rw [step_of_session hs, step_of_session hs', h.store]
  refine ⟨rfl, ?_, ?_⟩
  · exact h.sessions
  · rw [setStore_stores, setStore_stores, if_pos rfl, if_pos rfl]

/-- The outcomes on a store are those of a run, from any workspace that agrees on it, of the commands
on that store alone. -/
theorem outcomesOn_eq (h : AgreeOn id w w') (script : List Command) :
    w.outcomesOn id script = w'.run (script.filter (worksOn w.sessions id)) := by
  induction script generalizing w w' with
  | nil => rfl
  | cons c rest ih =>
    by_cases hc : storeOf w.sessions c = some id
    · obtain ⟨houtcome, hagree⟩ := h.step_here hc
      rw [outcomesOn_cons_of_eq hc, List.filter_cons_of_pos (worksOn_iff.mpr hc), run_cons, houtcome,
        ih hagree, step_sessions]
    · rw [outcomesOn_cons_of_ne hc, List.filter_cons_of_neg (worksOn_iff.not.mpr hc),
        ih (h.step_elsewhere hc), step_sessions]

end AgreeOn

/-! ## Sessions by their descriptions -/

/-- The store that a session is given: the shared one that it names, or its own. -/
theorem storeOf_ofDescriptions {descriptions : List (Language × Option Int)} {i : Nat}
    {d : Language × Option Int} (h : descriptions[i]? = some d) :
    storeOf (ofDescriptions descriptions).sessions (.vars i) =
      some (d.2.elim (.own i) .shared) := by
  unfold storeOf ofDescriptions
  rw [Command.session, List.getElem?_mapIdx, h]
  rfl

/-- Sessions share a store if they are the same, or name the same one. -/
theorem storeOf_eq_iff {descriptions : List (Language × Option Int)} {i j : Nat}
    {d e : Language × Option Int} (hi : descriptions[i]? = some d)
    (hj : descriptions[j]? = some e) :
    storeOf (ofDescriptions descriptions).sessions (.vars i) =
        storeOf (ofDescriptions descriptions).sessions (.vars j) ↔
      i = j ∨ ∃ number, d.2 = some number ∧ e.2 = some number := by
  rw [storeOf_ofDescriptions hi, storeOf_ofDescriptions hj, Option.some.injEq]
  obtain ⟨_, m⟩ := d
  obtain ⟨_, n⟩ := e
  constructor
  · intro h
    rcases m with _ | m <;> rcases n with _ | n
    · exact .inl (StoreId.own.inj h)
    · nomatch h
    · nomatch h
    · exact .inr ⟨m, rfl, congrArg some (StoreId.shared.inj h).symm⟩
  · rintro (rfl | ⟨number, rfl, rfl⟩)
    · obtain rfl : m = n := congrArg Prod.snd (Option.some.inj (hi.symm.trans hj))
      rfl
    · rfl

/-! ## Isolation -/

/-- Sessions interfere only through a store that they share. Leaving out all commands on other stores
changes no outcome on a store; what a command reports is what every session on its store, whatever
its language, reports when it is asked next; and two sessions share a store only if they were
described with the same one. -/
theorem sessions_meet_in_stores :
    (∀ (w : Workspace) (id : StoreId) (script : List Command),
      w.outcomesOn id script = w.run (script.filter (worksOn w.sessions id))) ∧
    (∀ (w : Workspace) (script : List Command) (c : Command) (j : Nat),
      storeOf w.sessions c ≠ none → storeOf w.sessions (.vars j) = storeOf w.sessions c →
      ∃ o, w.run (script ++ [c, .vars j]) = w.run script ++ [some o, some ⟨none, o.bindings⟩]) ∧
    ∀ (descriptions : List (Language × Option Int)) (i j : Nat) (d e : Language × Option Int),
      descriptions[i]? = some d → descriptions[j]? = some e →
      (storeOf (ofDescriptions descriptions).sessions (.vars i) =
          storeOf (ofDescriptions descriptions).sessions (.vars j) ↔
        i = j ∨ ∃ number, d.2 = some number ∧ e.2 = some number) := by
  refine ⟨?_, ?_, ?_⟩
  · intro w id script
    exact AgreeOn.outcomesOn_eq ⟨rfl, rfl⟩ script
  · intro w script c j hc hj
    obtain ⟨id, hid⟩ := Option.ne_none_iff_exists'.mp hc
    rw [hid] at hj
    rw [← w.sessions_after script] at hid hj
    obtain ⟨o, ho, hstore⟩ := stores_step_of_eq hid
    -- the second command looks at the store that the first one has just written
    obtain ⟨s, hs, rfl⟩ := exists_session_of_storeOf hj
    have hlook : (((w.after script).step c).2.step (.vars j)).1 = some ⟨none, o.bindings⟩ := by
      rw [← step_sessions _ c] at hs
      rw [step_of_session hs, hstore]
      rfl
    refine ⟨o, ?_⟩
    rw [run_append, run_cons, run_cons, ho, hlook]
    rfl
  · intro descriptions i j d e hi hj
    exact storeOf_eq_iff hi hj

/-- Two sessions of different languages on one store, and a third on its own that uses the same name
and clears what it has. -/
theorem sessions_meet_in_stores_beside_stranger :
    let colon : Language := ⟨':', by decide⟩
    let descriptions := [(Language.standard, some 0), (colon, some 0), (.standard, none)]
    let w := ofDescriptions descriptions
    let script := [Command.exec 0 "x = 1", .exec 2 "x = 7", .exec 1 "y : x + 1", .clear 2, .vars 0]
    w.outcomesOn (.shared 0) script = w.run [.exec 0 "x = 1", .exec 1 "y : x + 1", .vars 0] ∧
      (∃ o, w.run (script ++ [.exec 1 "x : y", .vars 0]) =
        w.run script ++ [some o, some ⟨none, o.bindings⟩]) ∧
      storeOf w.sessions (.vars 0) = storeOf w.sessions (.vars 1) ∧
      storeOf w.sessions (.vars 0) ≠ storeOf w.sessions (.vars 2) := by
  intro colon descriptions w script
  obtain ⟨hwithout, hreport, hshare⟩ := sessions_meet_in_stores
  have hsame := (hshare descriptions 0 1 _ _ rfl rfl).mpr (.inr ⟨0, rfl, rfl⟩)
  refine ⟨hwithout w (.shared 0) script, hreport w script _ 0 ?_ hsame, hsame, fun h => ?_⟩
  · exact Option.some_ne_none (StoreId.shared 0)
  · rcases (hshare descriptions 0 2 _ _ rfl rfl).mp h with heq | ⟨number, _, hnumber⟩
    · nomatch heq
    · nomatch hnumber

end PlaneCalc.Workspace

import Mathlib.Data.List.Induction
import PlaneCalc.Bindings.Journal

/-!
# Bindings are their history

What a journal answers can be read off the entries made in it, without following the bindings from
one to the next. `LastValue` finds what a name holds at its last record, and `enteredNames` lists the
names as they were entered since everything was last forgotten; neither mentions bindings. `Records`
says that bindings are the ones of a history. It is kept by every entry, so it holds after all of
them, and every answer follows from it, those about earlier snapshots too.
-/

namespace PlaneCalc

/-- Pairs with different names are recorded as they are. -/
theorem Bindings.ofList_of_nodup {pairs : List (String × Operand)}
    (h : (pairs.map Prod.fst).Nodup) : ofList pairs = ⟨pairs⟩ := by
  induction pairs using List.reverseRecOn with
  | nil => rfl
  | append_singleton pairs p ih =>
    rw [List.map_append, List.nodup_append] at h
    have hnew : p.1 ∉ pairs.map Prod.fst := fun hp => h.2.2 p.1 hp p.1 List.mem_cons_self rfl
    have hpairs : ofList pairs = ⟨pairs⟩ := ih h.1
    unfold ofList at hpairs ⊢
    rw [List.foldl_append, hpairs]
    exact congrArg Bindings.mk (setEntry_of_not_mem hnew p.2)

namespace Journal

/-! ## What a history says -/

/-- Whether an entry leaves what a name holds alone: it does not record the name, and it does not
forget everything. -/
def Entry.Spares (name : String) (e : Entry) : Prop := e ≠ .clear ∧ ∀ v, e ≠ .record name v

/-- What a name holds after a history: what was last recorded for it, unless everything was forgotten
since; and what it held at first, if neither has happened. -/
inductive LastValue (initial : List (String × Operand)) (history : List Entry) (name : String)
    (v : Operand) : Prop where
  | recorded (before since : List Entry) (hsplit : history = before ++ .record name v :: since)
      (hspared : ∀ e ∈ since, e.Spares name)
  | initial (hentry : (name, v) ∈ initial) (hspared : ∀ e ∈ history, e.Spares name)

/-- The name that an entry records. -/
def Entry.recordedName? : Entry → Option String
  | .record name _ => some name
  | _ => none

/-- The entries since everything was last forgotten. -/
def sinceClear (history : List Entry) : List Entry :=
  (history.reverse.takeWhile (· ≠ .clear)).reverse

/-- The names in the order of their entries since everything was last forgotten, as often as they were
entered. Those that were there at first come first. -/
def enteredNames (initial : List (String × Operand)) (history : List Entry) : List String :=
  (if .clear ∈ history then [] else initial.map Prod.fst) ++
    (sinceClear history).filterMap Entry.recordedName?

/-- After a history, an entry is answered so. -/
def Answers (initial : List (String × Operand)) (history : List Entry) (e : Entry) (a : Answer) :
    Prop :=
  enterAll (ofBindings (.ofList initial)) (history ++ [e]) =
    enterAll (ofBindings (.ofList initial)) history ++ [a]

/-! ## One more entry -/

variable {initial : List (String × Operand)} {history : List Entry} {name : String} {v : Operand}

/-- What a name holds after one more entry is what that entry recorded, or what it held before and
the entry left alone. -/
theorem lastValue_append {e : Entry} :
    LastValue initial (history ++ [e]) name v ↔
      e = .record name v ∨ LastValue initial history name v ∧ e.Spares name := by
  constructor
  · rintro (⟨before, since, hsplit, hspared⟩ | ⟨hentry, hspared⟩)
    · rcases List.eq_nil_or_concat since with rfl | ⟨since, last, rfl⟩
      · obtain ⟨_, hlast⟩ := List.append_inj' hsplit rfl
        exact .inl (List.singleton_inj.mp hlast)
      · rw [List.concat_eq_append] at hsplit hspared
        rw [← List.cons_append, ← List.append_assoc] at hsplit
        obtain ⟨hhistory, hlast⟩ := List.append_inj' hsplit rfl
        obtain rfl := List.singleton_inj.mp hlast
        exact .inr ⟨.recorded before since hhistory fun d hd => hspared d (List.mem_append_left _ hd),
          hspared e (by simp)⟩
    · exact .inr ⟨.initial hentry fun d hd => hspared d (List.mem_append_left _ hd),
        hspared e (by simp)⟩
  · have hboth : ∀ {since : List Entry}, (∀ d ∈ since, d.Spares name) → e.Spares name →
        ∀ d ∈ since ++ [e], d.Spares name := by
      intro since hsince he d hd
      rcases List.mem_append.mp hd with hd | hd
      · exact hsince d hd
      · rwa [List.mem_singleton.mp hd]
    rintro (rfl | ⟨⟨before, since, hsplit, hspared⟩ | ⟨hentry, hspared⟩, he⟩)
    · exact .recorded history [] rfl (by simp)
    · refine .recorded before (since ++ [e]) ?_ (hboth hspared he)
      rw [hsplit, List.append_assoc, List.cons_append]
    · exact .initial hentry (hboth hspared he)

theorem sinceClear_append_clear : sinceClear (history ++ [.clear]) = [] := by
  simp [sinceClear]

theorem sinceClear_append {e : Entry} (h : e ≠ .clear) :
    sinceClear (history ++ [e]) = sinceClear history ++ [e] := by
  simp [sinceClear, h]

theorem enteredNames_append_clear : enteredNames initial (history ++ [.clear]) = [] := by
  simp [enteredNames, sinceClear_append_clear]

theorem enteredNames_append {e : Entry} (h : e ≠ .clear) :
    enteredNames initial (history ++ [e]) =
      enteredNames initial history ++ e.recordedName?.toList := by
  have hmem : Entry.clear ∈ history ++ [e] ↔ Entry.clear ∈ history := by simp [Ne.symm h]
  unfold enteredNames
  rw [sinceClear_append h, List.filterMap_append]
  simp only [hmem, List.append_assoc]
  rcases hname : e.recordedName? with _ | n <;> simp [hname]

/-! ## The journal after a history -/

/-- The journal after entries. -/
def after (j : Journal) (entries : List Entry) : Journal :=
  entries.foldl (fun j e => (j.enter e).2) j

theorem after_append (j : Journal) (first second : List Entry) :
    j.after (first ++ second) = (j.after first).after second :=
  List.foldl_append

theorem enterAll_append (j : Journal) (first second : List Entry) :
    j.enterAll (first ++ second) = j.enterAll first ++ (j.after first).enterAll second := by
  induction first generalizing j with
  | nil => rfl
  | cons e rest ih => exact congrArg ((j.enter e).1 :: ·) (ih (j.enter e).2)

theorem answers_iff {e : Entry} {a : Answer} :
    Answers initial history e a ↔ (((ofBindings (.ofList initial)).after history).enter e).1 = a := by
  unfold Answers
  rw [enterAll_append, List.append_cancel_left_eq]
  exact List.singleton_inj

theorem enter_lookup (j : Journal) (name : String) :
    j.enter (.lookup name) =
      ((match j.current.find? name with
        | some o => .operand o
        | none => .fault (.undefined name)), j) := by
  rw [enter, Bindings.lookup]
  rcases j.current.find? name with _ | o <;> rfl

/-- An entry that neither records nor forgets leaves the bindings as they are. -/
theorem current_enter (j : Journal) {e : Entry} (hname : e.recordedName? = none) (h : e ≠ .clear) :
    (j.enter e).2.current = j.current := by
  rcases e with ⟨n, w⟩ | n | _ | _ | _ | _ | _ | _ | _
  case record => nomatch hname
  case lookup => rw [enter_lookup]
  case clear => exact absurd rfl h
  all_goals rfl

/-! ## Names in order -/

/-- A name that is entered again keeps its place, a new one is last. -/
theorem eraseDups_append_singleton (names : List String) (name : String) :
    (names ++ [name]).eraseDups =
      if name ∈ names.eraseDups then names.eraseDups else names.eraseDups ++ [name] := by
  simp only [List.eraseDups_append, List.mem_eraseDups]
  split
  · simp [List.removeAll, *]
  · simp [List.removeAll, List.eraseDups_cons, *]

theorem eraseDups_of_nodup {names : List String} (h : names.Nodup) : names.eraseDups = names := by
  induction names using List.reverseRecOn with
  | nil => rfl
  | append_singleton names name ih =>
    obtain ⟨hnames, _, hnew⟩ := List.nodup_append.mp h
    have hname : name ∉ names := fun hmem => hnew name hmem name List.mem_cons_self rfl
    rw [eraseDups_append_singleton, ih hnames, if_neg hname]

/-! ## The bindings of a history -/

/-- The bindings are the ones of a history. -/
structure Records (initial : List (String × Operand)) (history : List Entry) (b : Bindings) :
    Prop where
  distinct : b.names.Nodup
  values : ∀ name v, b.find? name = some v ↔ LastValue initial history name v
  order : b.names = (enteredNames initial history).eraseDups

namespace Records

variable {b : Bindings}

theorem ofInitial (h : (initial.map Prod.fst).Nodup) : Records initial [] (.ofList initial) := by
  rw [Bindings.ofList_of_nodup h]
  refine ⟨h, fun name v => ?_, ?_⟩
  · rw [← Bindings.mem_entries_iff h]
    constructor
    · intro hentry
      exact .initial hentry (by simp)
    · rintro (⟨before, since, hsplit, _⟩ | ⟨hentry, _⟩)
      · simp at hsplit
      · exact hentry
  · have hnames : enteredNames initial [] = initial.map Prod.fst := List.append_nil _
    rw [hnames, eraseDups_of_nodup h]
    rfl

theorem record (h : Records initial history b) (name : String) (v : Operand) :
    Records initial (history ++ [.record name v]) (b.record name v) where
  distinct := Bindings.nodup_names_record h.distinct name v
  values := by
    intro other w
    rw [Bindings.find?_record, lastValue_append, ← h.values]
    by_cases heq : other = name
    · simp [heq, Entry.Spares]
    · simp [heq, Ne.symm heq, Entry.Spares]
  order := by
    rw [Bindings.names_record, enteredNames_append (by simp)]
    show _ = (_ ++ [name]).eraseDups
    rw [eraseDups_append_singleton, ← h.order]

theorem clear : Records initial (history ++ [.clear]) .empty where
  distinct := List.nodup_nil
  values := by
    intro name v
    rw [lastValue_append]
    simp [Entry.Spares]
  order := by
    rw [enteredNames_append_clear]
    rfl

theorem keep (h : Records initial history b) {e : Entry} (hname : e.recordedName? = none)
    (hclear : e ≠ .clear) : Records initial (history ++ [e]) b where
  distinct := h.distinct
  values := by
    intro name v
    have hrecord : ∀ n w, e ≠ .record n w := by
      rintro n w rfl
      nomatch hname
    rw [lastValue_append, ← h.values]
    simp [hrecord, Entry.Spares, hclear]
  order := by
    rw [enteredNames_append hclear, hname, h.order]
    simp

/-- Every entry keeps the bindings those of the history. -/
theorem enter {j : Journal} (h : Records initial history j.current) (e : Entry) :
    Records initial (history ++ [e]) (j.enter e).2.current := by
  by_cases hclear : e = .clear
  · subst hclear
    exact .clear
  · rcases hname : e.recordedName? with _ | name
    · rw [current_enter j hname hclear]
      exact h.keep hname hclear
    · rcases e with ⟨n, w⟩ | _ | _ | _ | _ | _ | _ | _ | _
      case record => exact h.record n w
      all_goals nomatch hname

end Records

/-- The bindings after a history are the ones of the history. -/
theorem records_after (h : (initial.map Prod.fst).Nodup) (history : List Entry) :
    Records initial history ((ofBindings (.ofList initial)).after history).current := by
  induction history using List.reverseRecOn with
  | nil => exact .ofInitial h
  | append_singleton history e ih =>
    rw [after_append]
    exact ih.enter e

/-! ## Snapshots -/

/-- Snapshots are only added, behind those that were taken before. -/
theorem snapshots_enter (j : Journal) (e : Entry) :
    (j.enter e).2.snapshots = j.snapshots ++ if e = .snapshot then [j.current] else [] := by
  rcases e with _ | n | _ | _ | _ | _ | _ | _ | _
  case lookup => simp [enter_lookup]
  all_goals simp [Journal.enter]

theorem snapshots_prefix (j : Journal) (entries : List Entry) :
    j.snapshots <+: (j.after entries).snapshots := by
  induction entries generalizing j with
  | nil => exact List.prefix_rfl
  | cons e rest ih =>
    refine List.IsPrefix.trans ?_ (ih (j.enter e).2)
    rw [snapshots_enter]
    exact List.prefix_append _ _

theorem length_snapshots (j : Journal) (entries : List Entry) :
    (j.after entries).snapshots.length = j.snapshots.length + entries.count .snapshot := by
  induction entries generalizing j with
  | nil => rfl
  | cons e rest ih =>
    show ((j.enter e).2.after rest).snapshots.length = _
    rw [ih, snapshots_enter, List.count_cons, List.length_append]
    by_cases he : e = .snapshot
    · simp [he, Nat.add_comm, Nat.add_left_comm]
    · simp [he]

/-- A snapshot is found under its number whatever was entered since. -/
theorem snapshot_after (j : Journal) (hj : j.snapshots = []) (before since : List Entry) :
    (j.after (before ++ .snapshot :: since)).snapshots[before.count .snapshot]? =
      some (j.after before).current := by
  have hcount : (j.after before).snapshots.length = before.count .snapshot := by
    rw [length_snapshots, hj, List.length_nil, Nat.zero_add]
  have hprefix := snapshots_prefix ((j.after before).enter .snapshot).2 since
  rw [snapshots_enter, if_pos rfl] at hprefix
  obtain ⟨later, hlater⟩ := hprefix
  rw [after_append, ← hcount]
  show (((j.after before).enter .snapshot).2.after since).snapshots[_]? = _
  rw [← hlater, List.append_assoc, List.getElem?_append_right (Nat.le_refl _), Nat.sub_self]
  rfl

/-! ## Answers -/

theorem answers_lookup (h : (initial.map Prod.fst).Nodup) :
    Answers initial history (.lookup name) (.operand v) ↔ LastValue initial history name v := by
  rw [answers_iff, enter_lookup, ← (records_after h history).values]
  rcases ((ofBindings (.ofList initial)).after history).current.find? name with _ | o <;> simp

theorem answers_lookup_fault (h : (initial.map Prod.fst).Nodup) {f : EvalFault} :
    Answers initial history (.lookup name) (.fault f) ↔
      f = .undefined name ∧ ∀ v, ¬ LastValue initial history name v := by
  simp only [answers_iff, enter_lookup, ← (records_after h history).values]
  rcases ((ofBindings (.ofList initial)).after history).current.find? name with _ | o
  · simp [eq_comm]
  · simp

theorem mem_entered_iff (h : (initial.map Prod.fst).Nodup) :
    name ∈ (enteredNames initial history).eraseDups ↔ ∃ v, LastValue initial history name v := by
  have hrecords := records_after h history
  rw [← hrecords.order, Bindings.mem_names_iff]
  exact exists_congr fun v => hrecords.values name v

/-- Bindings are what their history says. Whatever mapping they begin with and whatever is entered, a
name holds its last value and is undefined if it has none, it is contained exactly if it has one, and
the names come in the order in which they were first entered since everything was last forgotten,
each once. A snapshot is numbered by those before it, and whenever it is recalled it holds the last
values and the names of the time when it was taken. -/
theorem answers_follow_history (initial : List (String × Operand))
    (hinitial : (initial.map Prod.fst).Nodup) (history : List Entry) :
    (∀ name v, Answers initial history (.lookup name) (.operand v) ↔
      LastValue initial history name v) ∧
    (∀ name f, Answers initial history (.lookup name) (.fault f) ↔
      f = .undefined name ∧ ∀ v, ¬ LastValue initial history name v) ∧
    (∀ name flag, Answers initial history (.contains name) (.flag flag) ↔
      (flag = true ↔ ∃ v, Answers initial history (.lookup name) (.operand v))) ∧
    (∃ names, names = (enteredNames initial history).eraseDups ∧ names.Nodup ∧
      (∀ name, name ∈ names ↔ ∃ v, LastValue initial history name v) ∧
      Answers initial history .names (.names names) ∧
      Answers initial history .size (.count names.length)) ∧
    ∀ before since, history = before ++ .snapshot :: since →
      Answers initial before .snapshot (.count (before.count .snapshot)) ∧
      ∃ m : Bindings, Answers initial history (.recall (before.count .snapshot)) (.bindings m) ∧
        (∀ name v, (name, v) ∈ m.entries ↔ LastValue initial before name v) ∧
        m.names = (enteredNames initial before).eraseDups := by
  have hrecords := records_after hinitial history
  refine ⟨fun _ _ => answers_lookup hinitial, fun _ _ => answers_lookup_fault hinitial, ?_, ?_, ?_⟩
  · intro name flag
    simp only [answers_lookup hinitial]
    rw [← mem_entered_iff hinitial, ← hrecords.order, ← List.contains_iff_mem, answers_iff]
    show Answer.flag _ = _ ↔ _
    rw [Answer.flag.injEq, ← Bool.eq_iff_iff]
    exact eq_comm
  · refine ⟨_, rfl, ?_, fun _ => mem_entered_iff hinitial, ?_, ?_⟩
    · exact hrecords.order ▸ hrecords.distinct
    · rw [answers_iff, ← hrecords.order]
      rfl
    · rw [answers_iff, ← hrecords.order, Bindings.names, List.length_map]
      rfl
  · rintro before since rfl
    have hbefore := records_after hinitial before
    refine ⟨?_, ((ofBindings (.ofList initial)).after before).current, ?_, ?_, hbefore.order⟩
    · rw [answers_iff]
      show Answer.count _ = _
      rw [length_snapshots]
      exact congrArg Answer.count (Nat.zero_add _)
    · rw [answers_iff]
      show Answer.bindings _ = _
      rw [List.getD_eq_getElem?_getD, snapshot_after _ rfl]
      rfl
    · intro name v
      rw [Bindings.mem_entries_iff hbefore.distinct, hbefore.values]

/-- A name is overwritten, a snapshot is taken, everything is forgotten and one name comes back behind
a new one. -/
theorem answers_follow_history_past_clear :
    let one := Operand.value (.scalar ⟨0x3FF0000000000000⟩)
    let two := Operand.value (.scalar ⟨0x4000000000000000⟩)
    let initial := [("a", one), ("b", one)]
    let before := [Entry.record "b" two, .lookup "a"]
    let history := before ++ .snapshot :: [.clear, .record "c" two, .record "b" one]
    (initial.map Prod.fst).Nodup ∧ Answers initial history (.lookup "b") (.operand one) ∧
      Answers initial history (.lookup "a") (.fault (.undefined "a")) ∧
      Answers initial history (.contains "a") (.flag false) ∧
      Answers initial history .names (.names ["c", "b"]) ∧
      ∃ m : Bindings, Answers initial history (.recall 0) (.bindings m) ∧
        ("a", one) ∈ m.entries ∧ ("b", two) ∈ m.entries ∧ m.names = ["a", "b"] := by
  intro one two initial before history
  have hinitial : (initial.map Prod.fst).Nodup := by simp [initial]
  obtain ⟨hlookup, hfault, hcontains, ⟨names, hnames, _, hmem, horder, _⟩, hsnapshot⟩ :=
    answers_follow_history initial hinitial history
  obtain rfl : names = ["c", "b"] := hnames.trans (by decide)
  have hgone : ∀ v, ¬ LastValue initial history "a" v := by
    intro v hv
    have ha : "a" ∈ ["c", "b"] := (hmem "a").mpr ⟨v, hv⟩
    simp at ha
  refine ⟨hinitial, (hlookup _ _).mpr ?_, (hfault _ _).mpr ⟨rfl, hgone⟩, ?_, horder, ?_⟩
  · exact .recorded (before ++ [.snapshot, .clear, .record "c" two]) [] rfl (by simp)
  · refine (hcontains _ _).mpr ⟨nofun, ?_⟩
    rintro ⟨v, hv⟩
    exact absurd ((hlookup _ _).mp hv) (hgone v)
  · obtain ⟨_, m, hrecall, hentries, horder⟩ := hsnapshot before _ rfl
    refine ⟨m, hrecall, (hentries _ _).mpr ?_, (hentries _ _).mpr ?_, horder.trans (by decide)⟩
    · exact .initial (by simp [initial]) (by simp [before, Entry.Spares])
    · exact .recorded [] [.lookup "a"] rfl (by simp [Entry.Spares])

end Journal

end PlaneCalc

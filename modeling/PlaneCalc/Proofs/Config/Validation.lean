import PlaneCalc.Config
import PlaneCalc.Proofs.Config.Showing
import PlaneCalc.Proofs.Evaluation.Recursion

/-!
# Validation of settings

A table of settings is looked at in eight places and nowhere else: three sections, which have to be
tables if they are there, and five keys in them. `Valid` says what each place may hold, `Reflects` which
configuration results, with a standard value for every key that is absent. Where a table is not valid,
the first check in a fixed order that refuses it says why (`FirstFault`).

An override of the log level that is not empty takes the place of the setting, which is then not looked
at; the section it stands in still has to be a table.

A check that refuses a setting says so by showing it. Where the setting cannot be shown, because of an
integer with too many digits or of too many layers, the check ends in a breakdown instead of a fault
(`Told`), and so it does where the log level cannot be written out. `Showable` rules that out.
-/

namespace PlaneCalc.Config

variable {limits : Limits} {override : Option String} {data data' : Table}

/-! ## Places in a table -/

/-- The fields of a section; one that is absent or no table has none. -/
def fieldsOf (data : Table) (name : String) : Table :=
  match data.lookup name with
  | some (.table fields) => fields
  | _ => []

/-- What is chosen for a key of a section. -/
def chosen (data : Table) (name key : String) : Option Setting := (fieldsOf data name).lookup key

/-- A section is absent or a table. -/
def IsSection (data : Table) (name : String) : Prop :=
  ∀ v, data.lookup name = some v → ∃ fields, v = .table fields

/-- The text that names the log level: the override unless it is empty, else the setting, if it can be
written out, else the standard level. -/
def effectiveLevel (limits : Limits) (override : Option String) (data : Table) :
    Except Unshowable String :=
  if override.getD "" = "" then
    ((chosen data "logging" "level").map (Setting.plain limits "level")).getD (.ok "WARNING")
  else .ok (override.getD "")

/-- A text in the form in which levels are compared. -/
def levelForm (text : String) : String := Text.trim (Text.capitals text)

/-- The names of the levels. -/
def levelNames : List String := ["DEBUG", "INFO", "WARNING", "ERROR", "CRITICAL"]

/-- What every place of a table has to be like. -/
structure Valid (limits : Limits) (override : Option String) (data : Table) : Prop where
  language : IsSection data "language"
  shell : IsSection data "shell"
  logging : IsSection data "logging"
  symbol : ∀ v, chosen data "language" "assignment_symbol" = some v →
    ∃ c : Char, v = .string c.toString ∧ Text.isAlphanumeric c = false ∧
      Text.isBlank c = false ∧ c ∉ "+-*/()[],.".toList
  prompt : ∀ v, chosen data "shell" "prompt" = some v → ∃ s, v = .string s
  banner : ∀ v, chosen data "shell" "banner" = some v → ∃ b, v = .bool b
  quitOnEmptyLine : ∀ v, chosen data "shell" "quit_on_empty_line" = some v → ∃ b, v = .bool b
  level : ∃ text, effectiveLevel limits override data = .ok text ∧ levelForm text ∈ levelNames

/-- The configuration has what is chosen in a table, and standard values for the rest. -/
structure Reflects (limits : Limits) (override : Option String) (data : Table) (config : Config) :
    Prop where
  symbol : (chosen data "language" "assignment_symbol").getD (.string "=") =
    .string config.language.symbol.toString
  prompt : (chosen data "shell" "prompt").getD (.string ">>> ") = .string config.prompt
  banner : (chosen data "shell" "banner").getD (.bool true) = .bool config.banner
  quitOnEmptyLine : (chosen data "shell" "quit_on_empty_line").getD (.bool true) =
    .bool config.quitOnEmptyLine
  level : ∃ text, effectiveLevel limits override data = .ok text ∧
    levelForm text = config.level.name

/-! ## Checks -/

/-- What is checked of a table. -/
inductive Check where
  | table (name : String)
  | symbol
  | prompt
  | switch (key : String)
  | level

/-- The checks in their order. -/
def Check.order : List Check :=
  [.table "language", .table "shell", .table "logging", .symbol, .prompt, .switch "banner",
    .switch "quit_on_empty_line", .level]

/-- What is told of a setting that is refused: a fault that shows it, or a breakdown where it cannot be
shown. -/
inductive Told (shown : Except Unshowable String) (fault : String → ConfigFault) : LoadFault → Prop where
  | fault {text : String} (h : shown = .ok text) : Told shown fault (.config (fault text))
  | breakdown {reason : Unshowable} (h : shown = .error reason) :
      Told shown fault (.breakdown (.unshowable reason))

/-- A check refuses a table, with what it tells. -/
inductive Refuses (limits : Limits) (override : Option String) (data : Table) :
    Check → LoadFault → Prop where
  | notTable {name : String} {v : Setting} (h : data.lookup name = some v)
      (hv : ∀ fields, v ≠ .table fields) :
      Refuses limits override data (.table name) (.config (.notTable name))
  | symbolNotSingle {v : Setting} {f : LoadFault}
      (h : chosen data "language" "assignment_symbol" = some v)
      (hv : ∀ c : Char, v ≠ .string c.toString)
      (hf : Told (v.shown limits "assignment_symbol") .symbolNotSingle f) :
      Refuses limits override data .symbol f
  | symbolCollides {c : Char}
      (h : chosen data "language" "assignment_symbol" = some (.string c.toString))
      (hc : ¬ (Text.isAlphanumeric c = false ∧ Text.isBlank c = false ∧
        c ∉ "+-*/()[],.".toList)) :
      Refuses limits override data .symbol
        (.config (.symbolCollides (Text.Quoted.encode c.toString)))
  | promptNotText {v : Setting} {f : LoadFault} (h : chosen data "shell" "prompt" = some v)
      (hv : ∀ s, v ≠ .string s) (hf : Told (v.shown limits "prompt") .promptNotText f) :
      Refuses limits override data .prompt f
  | notSwitch {key : String} {v : Setting} {f : LoadFault} (h : chosen data "shell" key = some v)
      (hv : ∀ b, v ≠ .bool b) (hf : Told (v.shown limits key) (.notSwitch key) f) :
      Refuses limits override data (.switch key) f
  | unknownLevel {f : LoadFault}
      (h : ∀ text, effectiveLevel limits override data = .ok text → levelForm text ∉ levelNames)
      (hf : Told (effectiveLevel limits override data) .unknownLevel f) :
      Refuses limits override data .level f

/-- A check that refuses a table for no reason. -/
def Passes (limits : Limits) (override : Option String) (data : Table) (check : Check) : Prop :=
  ∀ f, ¬ Refuses limits override data check f

/-- The fault of the first check of a list that does not pass. -/
inductive FirstFault (limits : Limits) (override : Option String) (data : Table) :
    List Check → LoadFault → Prop where
  | here {check : Check} {rest : List Check} {f : LoadFault}
      (h : Refuses limits override data check f) : FirstFault limits override data (check :: rest) f
  | later {check : Check} {rest : List Check} {f : LoadFault}
      (hpasses : Passes limits override data check) (h : FirstFault limits override data rest f) :
      FirstFault limits override data (check :: rest) f

/-- There is a first fault unless every check passes. -/
theorem exists_firstFault_iff {checks : List Check} :
    (∃ f, FirstFault limits override data checks f) ↔
      ¬ ∀ check ∈ checks, Passes limits override data check := by
  induction checks with
  | nil =>
    refine iff_of_false ?_ (by simp)
    rintro ⟨f, h⟩
    nomatch h
  | cons check rest ih =>
    rw [List.forall_mem_cons]
    by_cases hrefuses : ∃ f, Refuses limits override data check f
    · obtain ⟨f, hf⟩ := hrefuses
      exact iff_of_true ⟨f, .here hf⟩ fun h => h.1 f hf
    · have hpasses : Passes limits override data check := not_exists.mp hrefuses
      constructor
      · rintro ⟨f, h⟩ ⟨_, hrest⟩
        cases h with
        | here hf => exact hpasses f hf
        | later _ hfault => exact ih.mp ⟨f, hfault⟩ hrest
      · intro h
        obtain ⟨f, hfault⟩ := ih.mpr fun hrest => h ⟨hpasses, hrest⟩
        exact ⟨f, .later hpasses hfault⟩

/-- A step that fails as a check refuses, and goes on as the rest of the checks do. -/
theorem bind_eq_error_iff_firstFault {α β : Type} {step : Except LoadFault α}
    {next : α → Except LoadFault β} {check : Check} {rest : List Check} {f : LoadFault}
    (hstep : ∀ g, step = .error g ↔ Refuses limits override data check g)
    (hnext : ∀ a, step = .ok a → (next a = .error f ↔ FirstFault limits override data rest f)) :
    step >>= next = .error f ↔ FirstFault limits override data (check :: rest) f := by
  rw [bind_eq_error]
  constructor
  · rintro (hfault | ⟨a, ha, hrest⟩)
    · exact .here ((hstep f).mp hfault)
    · refine .later (fun g hg => ?_) ((hnext a ha).mp hrest)
      rw [(hstep g).mpr hg] at ha
      nomatch ha
  · intro h
    cases h with
    | here hrefuses => exact .inl ((hstep f).mpr hrefuses)
    | later hpasses hrest =>
      cases hresult : step with
      | error g => exact absurd ((hstep g).mp hresult) (hpasses g)
      | ok a => exact .inr ⟨a, rfl, (hnext a hresult).mpr hrest⟩

/-! ## Each step and its check -/

theorem refuse_eq_error_iff {α : Type} {shown : Except Unshowable String}
    {fault : String → ConfigFault} {f : LoadFault} :
    (refuse fault shown : Except LoadFault α) = .error f ↔ Told shown fault f := by
  constructor
  · intro h
    cases shown with
    | ok text =>
      obtain rfl := Except.error.inj h
      exact .fault rfl
    | error reason =>
      obtain rfl := Except.error.inj h
      exact .breakdown rfl
  · intro h
    cases h with
    | fault hshown => rw [hshown, refuse]
    | breakdown hshown => rw [hshown, refuse]

theorem refuse_ne_ok {α : Type} {shown : Except Unshowable String} {fault : String → ConfigFault}
    {a : α} : refuse fault shown ≠ .ok a := by
  cases shown <;> simp [refuse]

/-- Something is told of every setting that is refused. -/
theorem exists_told (shown : Except Unshowable String) (fault : String → ConfigFault) :
    ∃ f, Told shown fault f := by
  cases shown with
  | ok text => exact ⟨_, .fault rfl⟩
  | error reason => exact ⟨_, .breakdown rfl⟩

theorem sectionOf_eq_ok {name : String} {fields : Table} (h : sectionOf data name = .ok fields) :
    fields = fieldsOf data name := by
  unfold sectionOf at h
  unfold fieldsOf
  cases hlookup : data.lookup name with
  | none =>
    rw [hlookup] at h
    exact (Except.ok.inj h).symm
  | some v =>
    rw [hlookup] at h
    cases v with
    | table fields => exact (Except.ok.inj h).symm
    | _ => nomatch h

theorem sectionOf_eq_error_iff {name : String} {f : LoadFault} :
    sectionOf data name = .error f ↔ Refuses limits override data (.table name) f := by
  constructor
  · intro h
    unfold sectionOf at h
    split at h
    · nomatch h
    · nomatch h
    · rename_i v hv hlookup
      obtain rfl := Except.error.inj h
      exact .notTable hlookup hv
  · intro h
    cases h with
    | notTable hlookup hv =>
      unfold sectionOf
      rw [hlookup]
      split <;> simp_all

/-- A text of one character. -/
theorem toList_eq_singleton {s : String} {c : Char} : s.toList = [c] ↔ s = c.toString := by
  rw [← String.toList_inj]
  simp

theorem isAdmissible_iff {c : Char} :
    isAdmissible c = true ↔ Text.isAlphanumeric c = false ∧ Text.isBlank c = false ∧
      c ∉ "+-*/()[],.".toList := by
  have hreserved : "+-*/()[],.".toList = reservedCharacters := by simp [reservedCharacters]
  rw [hreserved]
  simp [isAdmissible, and_assoc]

theorem languageOf_single (limits : Limits) (c : Char) :
    languageOf limits (some (.string c.toString)) =
      if h : isAdmissible c = true then .ok ⟨c, h⟩
      else .error (.config (.symbolCollides (Text.Quoted.encode c.toString))) := by
  have hsingle : c.toString.toList = [c] := toList_eq_singleton.mpr rfl
  by_cases h : isAdmissible c = true
  · simp only [languageOf, hsingle, Language.ofSymbol?, dif_pos h]
  · simp only [languageOf, hsingle, Language.ofSymbol?, dif_neg h, Setting.shown_string, refuse]

theorem languageOf_of_ne {v : Setting} (h : ∀ c : Char, v ≠ .string c.toString) :
    languageOf limits (some v) = refuse .symbolNotSingle (v.shown limits "assignment_symbol") := by
  cases v with
  | string s =>
    rw [languageOf]
    split
    · rename_i c hs
      exact absurd (congrArg Setting.string (toList_eq_singleton.mp hs)) (h c)
    · rfl
  | _ => rfl

theorem languageOf_eq_error_iff {f : LoadFault} :
    languageOf limits (chosen data "language" "assignment_symbol") = .error f ↔
      Refuses limits override data .symbol f := by
  constructor
  · intro h
    cases hchosen : chosen data "language" "assignment_symbol" with
    | none =>
      rw [hchosen] at h
      simp [languageOf] at h
    | some v =>
      rw [hchosen] at h
      by_cases hsingle : ∃ c : Char, v = .string c.toString
      · obtain ⟨c, rfl⟩ := hsingle
        rw [languageOf_single] at h
        split at h
        · simp at h
        · rename_i hadmissible
          obtain rfl := Except.error.inj h
          exact .symbolCollides hchosen fun hc => hadmissible (isAdmissible_iff.mpr hc)
      · rw [languageOf_of_ne (not_exists.mp hsingle), refuse_eq_error_iff] at h
        exact .symbolNotSingle hchosen (not_exists.mp hsingle) h
  · intro h
    cases h with
    | symbolNotSingle hchosen hv hf => rw [hchosen, languageOf_of_ne hv, refuse_eq_error_iff.mpr hf]
    | symbolCollides hchosen hc =>
      have hnone : ¬ isAdmissible _ = true := fun h => hc (isAdmissible_iff.mp h)
      rw [hchosen, languageOf_single, dif_neg hnone]

theorem promptOf_eq_error_iff {f : LoadFault} :
    promptOf limits (chosen data "shell" "prompt") = .error f ↔
      Refuses limits override data .prompt f := by
  constructor
  · intro h
    unfold promptOf at h
    split at h
    · nomatch h
    · nomatch h
    · rename_i v hv hchosen
      exact .promptNotText hchosen (fun s hs => hv s hs) (refuse_eq_error_iff.mp h)
  · intro h
    cases h with
    | @promptNotText v _ hchosen hv hf =>
      rw [hchosen, ← refuse_eq_error_iff.mpr hf]
      cases v with
      | string s => exact absurd rfl (hv s)
      | _ => rfl

theorem switchOf_eq_error_iff {key : String} {f : LoadFault} :
    switchOf limits (fieldsOf data "shell") key = .error f ↔
      Refuses limits override data (.switch key) f := by
  constructor
  · intro h
    unfold switchOf at h
    split at h
    · nomatch h
    · nomatch h
    · rename_i v hv hchosen
      exact .notSwitch hchosen (fun b hb => hv b hb) (refuse_eq_error_iff.mp h)
  · intro h
    cases h with
    | @notSwitch _ v _ hchosen hv hf =>
      have hlookup : (fieldsOf data "shell").lookup key = some v := hchosen
      rw [switchOf, hlookup, ← refuse_eq_error_iff.mpr hf]
      cases v with
      | bool b => exact absurd rfl (hv b)
      | _ => rfl

theorem levelText_eq (limits : Limits) (override : Option String) (data : Table) :
    levelText limits override (chosen data "logging" "level") =
      effectiveLevel limits override data := by
  unfold levelText effectiveLevel
  cases override with
  | none => cases chosen data "logging" "level" <;> rfl
  | some s =>
    by_cases hs : s = ""
    · subst hs
      cases chosen data "logging" "level" <;> rfl
    · simp [hs, Option.filter]

theorem ofText?_eq_some_iff {text : String} {level : LogLevel} :
    LogLevel.ofText? text = some level ↔ levelForm text = level.name := by
  constructor
  · intro h
    have hname := List.find?_some h
    rw [decide_eq_true_iff] at hname
    exact hname.symm
  · intro h
    rw [LogLevel.ofText?]
    show (LogLevel.all.find? fun l => decide (l.name = levelForm text)) = some level
    rw [h]
    cases level <;> rfl

theorem mem_levelNames_iff {name : String} :
    name ∈ levelNames ↔ ∃ level : LogLevel, name = level.name := by
  constructor
  · intro h
    simp only [levelNames, List.mem_cons, List.not_mem_nil, or_false] at h
    rcases h with rfl | rfl | rfl | rfl | rfl
    · exact ⟨.debug, rfl⟩
    · exact ⟨.info, rfl⟩
    · exact ⟨.warning, rfl⟩
    · exact ⟨.error, rfl⟩
    · exact ⟨.critical, rfl⟩
  · rintro ⟨level, rfl⟩
    cases level <;> simp [levelNames, LogLevel.name]

theorem levelOf_eq_ok_iff {shown : Except Unshowable String} {level : LogLevel} :
    levelOf shown = .ok level ↔ ∃ text, shown = .ok text ∧ levelForm text = level.name := by
  cases shown with
  | error reason => simp [levelOf, Except.toOption, refuse]
  | ok text =>
    have htext : (Except.ok text : Except Unshowable String).toOption = some text := rfl
    simp only [levelOf, htext, Option.bind_some, Except.ok.injEq, exists_eq_left',
      ← ofText?_eq_some_iff]
    cases LogLevel.ofText? text <;> simp [refuse]

theorem levelOf_eq_error_iff {f : LoadFault} :
    levelOf (effectiveLevel limits override data) = .error f ↔
      Refuses limits override data .level f := by
  constructor
  · intro h
    have hnone : ∀ text, effectiveLevel limits override data = .ok text →
        levelForm text ∉ levelNames := by
      intro text htext hmem
      obtain ⟨level, hlevel⟩ := mem_levelNames_iff.mp hmem
      rw [levelOf_eq_ok_iff.mpr ⟨text, htext, hlevel⟩] at h
      nomatch h
    unfold levelOf at h
    split at h
    · nomatch h
    · exact .unknownLevel hnone (refuse_eq_error_iff.mp h)
  · intro h
    cases h with
    | unknownLevel hunknown hf =>
      rw [← refuse_eq_error_iff.mpr hf, levelOf]
      split
      · rename_i level hlevel
        obtain ⟨text, htext, hname⟩ := levelOf_eq_ok_iff.mp (show levelOf _ = .ok level by
          rw [levelOf, hlevel])
        exact absurd (mem_levelNames_iff.mpr ⟨level, hname⟩) (hunknown text htext)
      · rfl

/-- A configuration is refused by the first check that does not pass. -/
theorem ofTable_eq_error_iff {f : LoadFault} :
    ofTable limits override data = .error f ↔ FirstFault limits override data Check.order f := by
  unfold ofTable
  refine bind_eq_error_iff_firstFault (fun g => sectionOf_eq_error_iff) fun language hlanguage => ?_
  refine bind_eq_error_iff_firstFault (fun g => sectionOf_eq_error_iff) fun shell hshell => ?_
  refine bind_eq_error_iff_firstFault (fun g => sectionOf_eq_error_iff) fun logging hlogging => ?_
  obtain rfl := sectionOf_eq_ok hlanguage
  obtain rfl := sectionOf_eq_ok hshell
  obtain rfl := sectionOf_eq_ok hlogging
  refine bind_eq_error_iff_firstFault (fun g => languageOf_eq_error_iff) fun lang _ => ?_
  refine bind_eq_error_iff_firstFault (fun g => promptOf_eq_error_iff) fun prompt _ => ?_
  refine bind_eq_error_iff_firstFault (fun g => switchOf_eq_error_iff) fun banner _ => ?_
  refine bind_eq_error_iff_firstFault (fun g => switchOf_eq_error_iff) fun quit _ => ?_
  refine bind_eq_error_iff_firstFault (fun g => ?_) fun level _ => ?_
  · show levelOf (levelText limits override (chosen data "logging" "level")) = _ ↔ _
    rw [levelText_eq, levelOf_eq_error_iff]
  · exact iff_of_false (fun h => nomatch h) (fun h => nomatch h)

/-! ## Valid tables -/

/-- A check that refuses whatever is not of some form. -/
theorem passes_iff_of_form {α : Type} {check : Check} {given : Option Setting} {form : α → Setting}
    (h : (∃ f, Refuses limits override data check f) ↔ ∃ v, given = some v ∧ ∀ a, v ≠ form a) :
    Passes limits override data check ↔ ∀ v, given = some v → ∃ a, v = form a := by
  constructor
  · intro hpasses v hv
    by_cases hform : ∃ a, v = form a
    · exact hform
    · obtain ⟨f, hf⟩ := h.mpr ⟨v, hv, not_exists.mp hform⟩
      exact absurd hf (hpasses f)
  · intro hforms f hf
    obtain ⟨v, hv, hne⟩ := h.mp ⟨f, hf⟩
    obtain ⟨a, rfl⟩ := hforms v hv
    exact hne a rfl

theorem passes_table_iff {name : String} :
    Passes limits override data (.table name) ↔ IsSection data name := by
  refine passes_iff_of_form ⟨?_, fun ⟨v, hv, hne⟩ => ⟨_, .notTable hv hne⟩⟩
  rintro ⟨_, hf⟩
  cases hf with
  | notTable hv hne => exact ⟨_, hv, hne⟩

theorem passes_symbol_iff :
    Passes limits override data .symbol ↔
      ∀ v, chosen data "language" "assignment_symbol" = some v →
        ∃ c : Char, v = .string c.toString ∧ Text.isAlphanumeric c = false ∧
          Text.isBlank c = false ∧ c ∉ "+-*/()[],.".toList := by
  constructor
  · intro h v hv
    by_cases hsingle : ∃ c : Char, v = .string c.toString
    · obtain ⟨c, rfl⟩ := hsingle
      by_cases hc : Text.isAlphanumeric c = false ∧ Text.isBlank c = false ∧
          c ∉ "+-*/()[],.".toList
      · exact ⟨c, rfl, hc⟩
      · exact absurd (.symbolCollides hv hc) (h _)
    · obtain ⟨f, hf⟩ := exists_told (v.shown limits "assignment_symbol") .symbolNotSingle
      exact absurd (.symbolNotSingle hv (not_exists.mp hsingle) hf) (h f)
  · intro h f hf
    cases hf with
    | symbolNotSingle hchosen hv _ =>
      obtain ⟨c, rfl, _⟩ := h _ hchosen
      exact hv c rfl
    | symbolCollides hchosen hc =>
      obtain ⟨d, hd, hadmissible⟩ := h _ hchosen
      obtain rfl := String.singleton_inj.mp (Setting.string.inj hd)
      exact hc hadmissible

theorem passes_prompt_iff :
    Passes limits override data .prompt ↔
      ∀ v, chosen data "shell" "prompt" = some v → ∃ s, v = .string s := by
  refine passes_iff_of_form ⟨?_, fun ⟨v, hv, hne⟩ => ?_⟩
  · rintro ⟨_, hf⟩
    cases hf with
    | promptNotText hv hne _ => exact ⟨_, hv, hne⟩
  · obtain ⟨f, hf⟩ := exists_told (v.shown limits "prompt") .promptNotText
    exact ⟨f, .promptNotText hv hne hf⟩

theorem passes_switch_iff {key : String} :
    Passes limits override data (.switch key) ↔
      ∀ v, chosen data "shell" key = some v → ∃ b, v = .bool b := by
  refine passes_iff_of_form ⟨?_, fun ⟨v, hv, hne⟩ => ?_⟩
  · rintro ⟨_, hf⟩
    cases hf with
    | notSwitch hv hne _ => exact ⟨_, hv, hne⟩
  · obtain ⟨f, hf⟩ := exists_told (v.shown limits key) (.notSwitch key)
    exact ⟨f, .notSwitch hv hne hf⟩

theorem passes_level_iff :
    Passes limits override data .level ↔
      ∃ text, effectiveLevel limits override data = .ok text ∧ levelForm text ∈ levelNames := by
  constructor
  · intro h
    refine Classical.byContradiction fun hnone => ?_
    obtain ⟨f, hf⟩ := exists_told (effectiveLevel limits override data) .unknownLevel
    exact h f (.unknownLevel (fun text htext hmem => hnone ⟨text, htext, hmem⟩) hf)
  · rintro ⟨text, htext, hmem⟩ f hf
    cases hf with
    | unknownLevel hunknown _ => exact hunknown text htext hmem

/-- A table is valid if it passes every check. -/
theorem valid_iff :
    Valid limits override data ↔ ∀ check ∈ Check.order, Passes limits override data check := by
  simp only [Check.order, List.forall_mem_cons, List.not_mem_nil, false_imp_iff, implies_true,
    and_true, passes_table_iff, passes_symbol_iff, passes_prompt_iff, passes_switch_iff,
    passes_level_iff]
  constructor
  · rintro ⟨language, shell, logging, symbol, prompt, banner, quit, level⟩
    exact ⟨language, shell, logging, symbol, prompt, banner, quit, level⟩
  · rintro ⟨language, shell, logging, symbol, prompt, banner, quit, level⟩
    exact ⟨language, shell, logging, symbol, prompt, banner, quit, level⟩

/-- A configuration results from exactly the valid tables. -/
theorem exists_ofTable_eq_ok_iff :
    (∃ config, ofTable limits override data = .ok config) ↔ Valid limits override data := by
  rw [valid_iff]
  constructor
  · rintro ⟨config, h⟩
    refine Classical.byContradiction fun hfails => ?_
    obtain ⟨f, hf⟩ := exists_firstFault_iff.mpr hfails
    rw [ofTable_eq_error_iff.mpr hf] at h
    nomatch h
  · intro hpasses
    cases h : ofTable limits override data with
    | ok config => exact ⟨config, rfl⟩
    | error f => exact absurd hpasses (exists_firstFault_iff.mp ⟨f, ofTable_eq_error_iff.mp h⟩)

/-! ## The configuration of a valid table -/

theorem languageOf_eq_ok {given : Option Setting} {lang : Language}
    (h : languageOf limits given = .ok lang) :
    given.getD (.string "=") = .string lang.symbol.toString := by
  cases given with
  | none =>
    obtain rfl := Except.ok.inj h
    rfl
  | some v =>
    by_cases hsingle : ∃ c : Char, v = .string c.toString
    · obtain ⟨c, rfl⟩ := hsingle
      rw [languageOf_single] at h
      split at h
      · obtain rfl := Except.ok.inj h
        rfl
      · simp at h
    · rw [languageOf_of_ne (not_exists.mp hsingle)] at h
      exact absurd h refuse_ne_ok

theorem promptOf_eq_ok {given : Option Setting} {prompt : String}
    (h : promptOf limits given = .ok prompt) :
    given.getD (.string ">>> ") = .string prompt := by
  unfold promptOf at h
  split at h
  · obtain rfl := Except.ok.inj h
    rfl
  · obtain rfl := Except.ok.inj h
    rfl
  · exact absurd h refuse_ne_ok

theorem switchOf_eq_ok {fields : Table} {key : String} {b : Bool}
    (h : switchOf limits fields key = .ok b) :
    (fields.lookup key).getD (.bool true) = .bool b := by
  unfold switchOf at h
  split at h
  · rename_i hlookup
    obtain rfl := Except.ok.inj h
    rw [hlookup]
    rfl
  · rename_i hlookup
    obtain rfl := Except.ok.inj h
    rw [hlookup]
    rfl
  · exact absurd h refuse_ne_ok

theorem reflects_of_ofTable {config : Config} (h : ofTable limits override data = .ok config) :
    Reflects limits override data config := by
  unfold ofTable at h
  obtain ⟨language, hlanguage, h⟩ := bind_eq_ok.mp h
  obtain ⟨shell, hshell, h⟩ := bind_eq_ok.mp h
  obtain ⟨logging, hlogging, h⟩ := bind_eq_ok.mp h
  obtain rfl := sectionOf_eq_ok hlanguage
  obtain rfl := sectionOf_eq_ok hshell
  obtain rfl := sectionOf_eq_ok hlogging
  obtain ⟨lang, hlang, h⟩ := bind_eq_ok.mp h
  obtain ⟨prompt, hprompt, h⟩ := bind_eq_ok.mp h
  obtain ⟨banner, hbanner, h⟩ := bind_eq_ok.mp h
  obtain ⟨quit, hquit, h⟩ := bind_eq_ok.mp h
  obtain ⟨level, hlevel, h⟩ := bind_eq_ok.mp h
  obtain rfl := Except.ok.inj h
  refine ⟨languageOf_eq_ok hlang, promptOf_eq_ok hprompt, switchOf_eq_ok hbanner,
    switchOf_eq_ok hquit, ?_⟩
  rw [← levelText_eq]
  exact levelOf_eq_ok_iff.mp hlevel

/-- A table determines its configuration. -/
theorem Reflects.unique {config config' : Config} (h : Reflects limits override data config)
    (h' : Reflects limits override data config') : config = config' := by
  obtain ⟨⟨symbol, hsymbol⟩, prompt, banner, quit, level⟩ := config
  obtain ⟨⟨symbol', hsymbol'⟩, prompt', banner', quit', level'⟩ := config'
  obtain rfl : symbol = symbol' :=
    String.singleton_inj.mp (Setting.string.inj (h.symbol.symm.trans h'.symbol))
  obtain rfl : prompt = prompt' := Setting.string.inj (h.prompt.symm.trans h'.prompt)
  obtain rfl : banner = banner' := Setting.bool.inj (h.banner.symm.trans h'.banner)
  obtain rfl : quit = quit' :=
    Setting.bool.inj (h.quitOnEmptyLine.symm.trans h'.quitOnEmptyLine)
  have hlevel : Except.ok level = Except.ok level' :=
    (levelOf_eq_ok_iff.mpr h.level).symm.trans (levelOf_eq_ok_iff.mpr h'.level)
  obtain rfl := Except.ok.inj hlevel
  rfl

theorem ofTable_eq_ok_iff {config : Config} :
    ofTable limits override data = .ok config ↔
      Valid limits override data ∧ Reflects limits override data config := by
  constructor
  · intro h
    exact ⟨exists_ofTable_eq_ok_iff.mp ⟨config, h⟩, reflects_of_ofTable h⟩
  · rintro ⟨hvalid, hreflects⟩
    obtain ⟨config', hconfig'⟩ := exists_ofTable_eq_ok_iff.mpr hvalid
    rw [hconfig', (reflects_of_ofTable hconfig').unique hreflects]

/-! ## What is not looked at -/

/-- The keys that are looked at besides the log level, each with its section. -/
def keys : List (String × String) :=
  [("language", "assignment_symbol"), ("shell", "prompt"), ("shell", "banner"),
    ("shell", "quit_on_empty_line")]

/-- Two tables agree wherever they are looked at, the log level apart. -/
structure Agree (data data' : Table) : Prop where
  sections : ∀ name ∈ ["language", "shell", "logging"], IsSection data name ↔ IsSection data' name
  chosen : ∀ p ∈ keys, chosen data p.1 p.2 = chosen data' p.1 p.2

/-- A section is read, or it is refused without a look into it. -/
theorem sectionOf_cases (data : Table) (name : String) :
    IsSection data name ∧ sectionOf data name = .ok (fieldsOf data name) ∨
      ¬ IsSection data name ∧ sectionOf data name = .error (.config (.notTable name)) := by
  cases h : sectionOf data name with
  | ok fields =>
    have hpasses : Passes .usual none data (.table name) := by
      intro f hf
      rw [sectionOf_eq_error_iff.mpr hf] at h
      nomatch h
    exact .inl ⟨passes_table_iff.mp hpasses, by rw [sectionOf_eq_ok h]⟩
  | error f =>
    have hrefuses : Refuses .usual none data (.table name) f := sectionOf_eq_error_iff.mp h
    refine .inr ⟨fun hsection => passes_table_iff.mpr hsection f hrefuses, ?_⟩
    cases hrefuses
    rfl

/-- Two sections of which both are tables, or neither is. -/
theorem sectionOf_agree {name : String} (h : IsSection data name ↔ IsSection data' name) :
    (sectionOf data name = .ok (fieldsOf data name) ∧
      sectionOf data' name = .ok (fieldsOf data' name)) ∨
    sectionOf data name = .error (.config (.notTable name)) ∧
      sectionOf data' name = .error (.config (.notTable name)) := by
  rcases sectionOf_cases data name with ⟨hs, hdata⟩ | ⟨hs, hdata⟩
  · rcases sectionOf_cases data' name with ⟨_, hdata'⟩ | ⟨hs', _⟩
    · exact .inl ⟨hdata, hdata'⟩
    · exact absurd (h.mp hs) hs'
  · rcases sectionOf_cases data' name with ⟨hs', _⟩ | ⟨_, hdata'⟩
    · exact absurd (h.mpr hs') hs
    · exact .inr ⟨hdata, hdata'⟩

theorem switchOf_congr {fields fields' : Table} {key : String}
    (h : fields.lookup key = fields'.lookup key) :
    switchOf limits fields key = switchOf limits fields' key := by
  rw [switchOf, switchOf, h]

/-- Where the sections are tables, the keys decide. -/
theorem ofTable_of_sections (hlanguage : sectionOf data "language" = .ok (fieldsOf data "language"))
    (hshell : sectionOf data "shell" = .ok (fieldsOf data "shell"))
    (hlogging : sectionOf data "logging" = .ok (fieldsOf data "logging")) :
    ofTable limits override data = do
      let lang ← languageOf limits (chosen data "language" "assignment_symbol")
      let prompt ← promptOf limits (chosen data "shell" "prompt")
      let banner ← switchOf limits (fieldsOf data "shell") "banner"
      let quit ← switchOf limits (fieldsOf data "shell") "quit_on_empty_line"
      let level ← levelOf (effectiveLevel limits override data)
      return ⟨lang, prompt, banner, quit, level⟩ := by
  rw [ofTable, hlanguage, hshell, hlogging, ← levelText_eq]
  rfl

/-- What stands elsewhere in a table does not matter. -/
theorem ofTable_congr (h : Agree data data')
    (hlevel : effectiveLevel limits override data = effectiveLevel limits override data') :
    ofTable limits override data = ofTable limits override data' := by
  rcases sectionOf_agree (h.sections "language" (by simp)) with ⟨hl, hl'⟩ | ⟨hl, hl'⟩
  · rcases sectionOf_agree (h.sections "shell" (by simp)) with ⟨hs, hs'⟩ | ⟨hs, hs'⟩
    · rcases sectionOf_agree (h.sections "logging" (by simp)) with ⟨hg, hg'⟩ | ⟨hg, hg'⟩
      · have hbanner : (fieldsOf data "shell").lookup "banner" = _ :=
          h.chosen ("shell", "banner") (by simp [keys])
        have hquit : (fieldsOf data "shell").lookup "quit_on_empty_line" = _ :=
          h.chosen ("shell", "quit_on_empty_line") (by simp [keys])
        rw [ofTable_of_sections hl hs hg, ofTable_of_sections hl' hs' hg',
          h.chosen ("language", "assignment_symbol") (by simp [keys]),
          h.chosen ("shell", "prompt") (by simp [keys]), switchOf_congr hbanner,
          switchOf_congr hquit, hlevel]
      · rw [ofTable, ofTable, hl, hl', hs, hs', hg, hg']
        rfl
    · rw [ofTable, ofTable, hl, hl', hs, hs']
      rfl
  · rw [ofTable, ofTable, hl, hl']
    rfl

/-! ## Settings that can be shown -/

/-- Every setting that is looked at can be shown. -/
structure Showable (limits : Limits) (override : Option String) (data : Table) : Prop where
  keys : ∀ p ∈ keys, ∀ v, Config.chosen data p.1 p.2 = some v →
    v.Fits limits.digits (limits.showing p.2)
  level : override.getD "" = "" → ∀ v, Config.chosen data "logging" "level" = some v →
    v.Fits limits.digits (limits.showing "level")

theorem Told.eq_config {shown : Except Unshowable String} {fault : String → ConfigFault}
    {f : LoadFault} (h : Told shown fault f) (hshown : ∃ text, shown = .ok text) :
    ∃ g, f = .config g := by
  cases h with
  | fault htext => exact ⟨_, rfl⟩
  | breakdown hreason =>
    obtain ⟨text, htext⟩ := hshown
    rw [hreason] at htext
    nomatch htext

theorem exists_effectiveLevel (h : Showable limits override data) :
    ∃ text, effectiveLevel limits override data = .ok text := by
  unfold effectiveLevel
  split
  · rename_i hunset
    cases hchosen : chosen data "logging" "level" with
    | none => exact ⟨_, rfl⟩
    | some v =>
      show ∃ text, v.plain limits "level" = .ok text
      unfold Setting.plain
      split
      · exact ⟨_, rfl⟩
      · exact ⟨_, rfl⟩
      · exact Setting.exists_shown_iff_fits.mpr (h.level hunset v hchosen)
  · exact ⟨_, rfl⟩

theorem Showable.exists_shown (h : Showable limits override data) {name key : String}
    (hkey : (name, key) ∈ Config.keys) {v : Setting} (hv : Config.chosen data name key = some v) :
    ∃ text, v.shown limits key = .ok text :=
  Setting.exists_shown_iff_fits.mpr (h.keys (name, key) hkey v hv)

/-- A check tells a fault, and no breakdown, of what can be shown. -/
theorem Refuses.eq_config {check : Check} {f : LoadFault} (h : Refuses limits override data check f)
    (hcheck : check ∈ Check.order) (hshown : Showable limits override data) :
    ∃ g, f = .config g := by
  cases h with
  | notTable => exact ⟨_, rfl⟩
  | symbolCollides => exact ⟨_, rfl⟩
  | symbolNotSingle hv _ hf => exact hf.eq_config (hshown.exists_shown (by simp [keys]) hv)
  | promptNotText hv _ hf => exact hf.eq_config (hshown.exists_shown (by simp [keys]) hv)
  | @notSwitch key v _ hv _ hf =>
    have hkey : key = "banner" ∨ key = "quit_on_empty_line" := by simpa [Check.order] using hcheck
    have hmem : ("shell", key) ∈ keys := by rcases hkey with rfl | rfl <;> simp [keys]
    exact hf.eq_config (hshown.exists_shown hmem hv)
  | unknownLevel _ hf => exact hf.eq_config (exists_effectiveLevel hshown)

/-- The first fault is told by one of the checks. -/
theorem FirstFault.exists_refuses {checks : List Check} {f : LoadFault}
    (h : FirstFault limits override data checks f) :
    ∃ check ∈ checks, Refuses limits override data check f := by
  induction h with
  | here hrefuses => exact ⟨_, List.mem_cons_self, hrefuses⟩
  | later _ _ ih =>
    obtain ⟨check, hcheck, hrefuses⟩ := ih
    exact ⟨check, List.mem_cons_of_mem _ hcheck, hrefuses⟩

/-- Settings are validated exactly. A configuration results if and only if each of the eight places is
absent or as it has to be, and it has what is chosen there and standard values for the rest; otherwise
the first check in the fixed order that refuses says so. It says so by a fault of the configuration
wherever the settings can be shown, which are those within the limits of the host, and by a breakdown
where the one that is refused cannot. Nothing else in a table matters, and where the log level is
overridden, the setting does not matter either. -/
theorem settings_validated_exactly (limits : Limits) (override : Option String) (data : Table) :
    ((∃ config, ofTable limits override data = .ok config) ↔ Valid limits override data) ∧
    (∀ config, ofTable limits override data = .ok config ↔
      Valid limits override data ∧ Reflects limits override data config) ∧
    (∀ f, ofTable limits override data = .error f ↔
      FirstFault limits override data Check.order f) ∧
    (Showable limits override data → ∀ f, ofTable limits override data = .error f →
      ∃ g, f = .config g) ∧
    (∀ key (v : Setting), (∃ text, v.shown limits key = .ok text) ↔
      v.Fits limits.digits (limits.showing key)) ∧
    (∀ data', Agree data data' → chosen data "logging" "level" = chosen data' "logging" "level" →
      ofTable limits override data = ofTable limits override data') ∧
    ∀ data', Agree data data' → override.getD "" ≠ "" →
      ofTable limits override data = ofTable limits override data' := by
  refine ⟨exists_ofTable_eq_ok_iff, fun config => ofTable_eq_ok_iff,
    fun f => ofTable_eq_error_iff, ?_, fun key v => Setting.exists_shown_iff_fits, ?_, ?_⟩
  · intro hshown f hf
    obtain ⟨check, hcheck, hrefuses⟩ := (ofTable_eq_error_iff.mp hf).exists_refuses
    exact hrefuses.eq_config hcheck hshown
  · intro data' h hlevel
    refine ofTable_congr h ?_
    rw [effectiveLevel, effectiveLevel, hlevel]
  · intro data' h hoverride
    refine ofTable_congr h ?_
    rw [effectiveLevel, effectiveLevel, if_neg hoverride, if_neg hoverride]

/-- Of three faults the one of the symbol is reported, before those of a switch and of the level; with
an override, whatever stands in the place of the level is accepted. -/
theorem settings_validated_exactly_past_override :
    let faulty : Table := [("logging", .table [("level", .integer 3)]),
      ("shell", .table [("banner", .string "yes")]),
      ("language", .table [("assignment_symbol", .string "½")])]
    let odd : Table := [("title", .null), ("logging", .table [("level", .array [])])]
    ofTable .usual none faulty =
        .error (.config (.symbolCollides (Text.Quoted.encode '½'.toString))) ∧
      Agree odd [] ∧ ofTable .usual (some " info") odd = ofTable .usual (some " info") [] ∧
      ∃ config, ofTable .usual (some " info") odd = .ok config ∧ config.level = .info := by
  intro faulty odd
  obtain ⟨_, _, hfirst, _⟩ := settings_validated_exactly .usual none faulty
  obtain ⟨_, hreflects, _, _, _, _, hoverridden⟩ :=
    settings_validated_exactly .usual (some " info") odd
  have htable : ∀ {data : Table} {name : String}, (∀ v, data.lookup name = some v →
      ∃ fields, v = .table fields) → Passes .usual none data (.table name) := passes_table_iff.mpr
  have hsections : ∀ name ∈ ["language", "shell", "logging"], IsSection odd name := by
    simp [IsSection, odd, List.lookup_cons]
  have habsent : ∀ p ∈ keys, chosen odd p.1 p.2 = none := by
    simp [keys, chosen, fieldsOf, odd, List.lookup_cons]
  have hempty : ∀ name, IsSection [] name := by simp [IsSection]
  have hagree : Agree odd [] :=
    ⟨fun name hname => iff_of_true (hsections name hname) (hempty name), habsent⟩
  refine ⟨(hfirst _).mpr ?_, hagree, hoverridden [] hagree (by decide), ?_⟩
  · refine .later (htable ?_) (.later (htable ?_) (.later (htable ?_) (.here ?_)))
    · simp [faulty, List.lookup_cons]
    · simp [faulty, List.lookup_cons]
    · simp [faulty]
    · exact .symbolCollides rfl fun h => absurd h.1 (by decide +kernel)
  · have hlevel : effectiveLevel .usual (some " info") odd = .ok " info" := rfl
    have hform : levelForm " info" = LogLevel.info.name := by decide +kernel
    have hnone : ∀ name key, (name, key) ∈ keys → ∀ v, chosen odd name key ≠ some v := by
      intro name key hkey v
      rw [habsent _ hkey]
      simp
    have hodd : Valid .usual (some " info") odd :=
      ⟨hsections _ (by simp), hsections _ (by simp), hsections _ (by simp),
        fun v hv => absurd hv (hnone _ _ (by simp [keys]) v),
        fun v hv => absurd hv (hnone _ _ (by simp [keys]) v),
        fun v hv => absurd hv (hnone _ _ (by simp [keys]) v),
        fun v hv => absurd hv (hnone _ _ (by simp [keys]) v),
        ⟨_, hlevel, mem_levelNames_iff.mpr ⟨.info, hform⟩⟩⟩
    exact ⟨⟨.standard, ">>> ", true, true, .info⟩,
      (hreflects _).mpr ⟨hodd, rfl, rfl, rfl, rfl, _, hlevel, hform⟩, rfl⟩

/-- An integer is no prompt, and one with too many digits cannot be reported either. -/
theorem ofTable_of_oversized_prompt (limits : Limits) {n : Int}
    (h : ¬ n.natAbs < Nat.pow 10 limits.digits) :
    ofTable limits none [("shell", .table [("prompt", .integer n)])] =
      .error (.breakdown (.unshowable (.oversized limits.digits))) := by
  have hshown : (Setting.integer n).shown limits "prompt" = .error (.oversized limits.digits) := by
    obtain ⟨room, hroom⟩ := Nat.exists_eq_add_of_le' (limits.showing_enough "prompt")
    rw [Setting.shown, hroom, Setting.display, if_neg h]
  have htable : ∀ name, IsSection [("shell", .table [("prompt", .integer n)])] name →
      Passes limits none _ (.table name) := fun name => passes_table_iff.mpr
  refine ofTable_eq_error_iff.mpr (.later (htable _ ?_) (.later (htable _ ?_) (.later (htable _ ?_)
    (.later (passes_symbol_iff.mpr ?_) (.here (.promptNotText rfl ?_ (.breakdown hshown)))))))
  · simp [IsSection, List.lookup_cons]
  · simp [IsSection]
  · simp [IsSection, List.lookup_cons]
  · simp [chosen, fieldsOf, List.lookup_cons]
  · simp

/-- Not every table that is refused is reported: a prompt that is an integer of 4817 digits is no text,
and there is neither a configuration nor a fault of one. -/
theorem oversized_prompt_escapes :
    let data : Table := [("shell", .table [("prompt", .integer (Nat.pow 16 4000))])]
    ¬ ((∃ config, ofTable .usual none data = .ok config) ∨
      ∃ g, ofTable .usual none data = .error (.config g)) := by
  intro data
  have hsize : ¬ (Nat.pow 16 4000 : Int).natAbs < Nat.pow 10 Limits.usual.digits := by
    decide +kernel
  rw [ofTable_of_oversized_prompt .usual hsize]
  simp

end PlaneCalc.Config

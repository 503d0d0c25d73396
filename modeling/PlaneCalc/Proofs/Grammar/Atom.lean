import Mathlib.Data.List.TakeWhile
import PlaneCalc.Proofs.Grammar.Derivation

/-!
# How numerals and names are read

`Numeral.Run` and `Grammar.NameRun` list every way in which reading a numeral or a name can end, with
the shape of the input that leads there. They describe the readers exactly: whatever happens is
listed, and whatever is listed happens. Later proofs go by these cases and not by the code.
-/

namespace PlaneCalc

/-! ## Where a class of characters stops -/

/-- The rest of a line does not go on with a character of the class. -/
def Stops (p : Char → Bool) (rest : List Char) : Prop := ∀ c ∈ rest.head?, p c = false

section

variable {p : Char → Bool} {w rest : List Char}

theorem stops_nil : Stops p [] := by
  intro c hc
  simp at hc

theorem stops_cons {c : Char} : Stops p (c :: rest) ↔ p c = false := by
  simp [Stops]

/-- One character of lookahead decides whether a class stops. -/
theorem Stops.of_append {k v : List Char} (h : Stops p (k ++ v)) (hk : k ≠ []) (v' : List Char) :
    Stops p (k ++ v') := by
  obtain ⟨c, k, rfl⟩ := List.exists_cons_of_ne_nil hk
  exact stops_cons.mpr (stops_cons.mp h)

/-- A class with one more character stops where the class does and the character is not next. -/
theorem Stops.or_eq {d : Char} (h : Stops p rest) (hd : ∀ more, rest ≠ d :: more) :
    Stops (fun c => p c || c == d) rest := by
  cases rest with
  | nil => exact stops_nil
  | cons c rest =>
    have hne : c ≠ d := fun hcd => hd rest (by rw [hcd])
    simp [stops_cons, stops_cons.mp h, hne]

theorem Stops.of_or {q : Char → Bool} (h : Stops (fun c => p c || q c) rest) :
    Stops p rest ∧ Stops q rest := by
  refine ⟨fun c hc => ?_, fun c hc => ?_⟩
  · exact (Bool.or_eq_false_iff.mp (h c hc)).1
  · exact (Bool.or_eq_false_iff.mp (h c hc)).2

theorem stops_dropWhile (p : Char → Bool) (w : List Char) : Stops p (w.dropWhile p) := by
  intro c hc
  have hhead := List.head?_dropWhile_not p w
  rw [Option.mem_def.mp hc] at hhead
  simpa using hhead

theorem takeWhile_eq_of_stops (hw : ∀ c ∈ w, p c = true) (hrest : Stops p rest) :
    (w ++ rest).takeWhile p = w := by
  rw [List.takeWhile_append_of_pos hw]
  cases rest with
  | nil => simp
  | cons c rest => simp [stops_cons.mp hrest]

theorem dropWhile_eq_of_stops (hw : ∀ c ∈ w, p c = true) (hrest : Stops p rest) :
    (w ++ rest).dropWhile p = rest := by
  rw [List.dropWhile_append_of_pos hw]
  cases rest with
  | nil => simp
  | cons c rest => simp [stops_cons.mp hrest]

end

/-! ## Numerals -/

namespace Numeral

/-- The sign of a numeral as it is written. -/
def sign (negative : Bool) : List Char := if negative then ['-'] else []

theorem text_integral (negative : Bool) (whole : List Char) :
    text ⟨negative, whole, []⟩ = sign negative ++ whole :=
  List.append_nil _

theorem text_fractional (negative : Bool) (whole : List Char) {fraction : List Char}
    (h : fraction ≠ []) :
    text ⟨negative, whole, fraction⟩ = sign negative ++ whole ++ '.' :: fraction := by
  simp [text, sign, h]

/-- What becomes of reading a numeral, one constructor for each ending. -/
inductive Run : List Char → Reading Numeral → Prop where
  | absent {input : List Char} (h : Stops (fun c => c.isDigit || c == '-') input) :
      Run input .absent
  | signWithoutDigit {rest : List Char} (h : Stops Char.isDigit rest) :
      Run ('-' :: rest) (.failed .signWithoutDigit rest)
  | leadingZero (negative : Bool) {d : Char} {rest : List Char} (hd : d.isDigit = true) :
      Run (sign negative ++ '0' :: d :: rest) (.failed .leadingZero ('0' :: d :: rest))
  | pointWithoutDigit (negative : Bool) {whole rest : List Char} (hw : IsWhole whole)
      (h : Stops Char.isDigit rest) :
      Run (sign negative ++ whole ++ '.' :: rest) (.failed .pointWithoutDigit rest)
  | secondPoint {n : Numeral} (hn : n.Regular) (hf : n.fraction ≠ []) {rest : List Char} :
      Run (n.text ++ '.' :: rest) (.failed .secondPoint ('.' :: rest))
  | found {n : Numeral} (hn : n.Regular) {rest : List Char}
      (h : Stops (fun c => c.isDigit || c == '.') rest) : Run (n.text ++ rest) (.found n rest)

theorem startsWithDigit_eq_false {input : List Char} :
    startsWithDigit input = false ↔ Stops Char.isDigit input := by
  cases input with
  | nil => simp [startsWithDigit, stops_nil]
  | cons c rest => simp [startsWithDigit, stops_cons]

/-- Digits without a superfluous zero in front are a whole part. -/
theorem isWhole_takeWhile {input : List Char} (hd : startsWithDigit input = true)
    (h0 : hasLeadingZero (input.takeWhile Char.isDigit) = false) :
    IsWhole (input.takeWhile Char.isDigit) := by
  cases input with
  | nil => simp [startsWithDigit] at hd
  | cons d rest =>
    have hdigit : d.isDigit = true := hd
    rw [List.takeWhile_cons_of_pos hdigit] at h0 ⊢
    by_cases hz : d = '0'
    · subst hz
      cases htail : rest.takeWhile Char.isDigit with
      | nil => exact .zero
      | cons e tail => simp [htail, hasLeadingZero] at h0
    · exact .positive hdigit hz fun c hc => List.mem_takeWhile_imp hc

theorem hasLeadingZero_eq_true {cs : List Char} :
    hasLeadingZero cs = true ↔ ∃ d rest, cs = '0' :: d :: rest := by
  unfold hasLeadingZero
  split <;> simp_all

/-- Reading on after the whole part ends in one of the listed ways. -/
theorem run_readFraction (negative : Bool) {whole : List Char} (hw : IsWhole whole)
    (input : List Char) (h : Stops Char.isDigit input) :
    Run (sign negative ++ whole ++ input) (readFraction negative whole input) := by
  unfold readFraction
  split
  · -- after the point come digits or a fault, and after the digits perhaps a second point
    rename_i rest
    split
    · rename_i hd
      exact .pointWithoutDigit negative hw (startsWithDigit_eq_false.mp (by simpa using hd))
    · rename_i hd
      have hne : rest.takeWhile Char.isDigit ≠ [] := by
        cases rest with
        | nil => simp [startsWithDigit] at hd
        | cons c rest =>
          have hc : c.isDigit = true := by simpa [startsWithDigit] using hd
          simp [hc]
      have hregular : Regular ⟨negative, whole, rest.takeWhile Char.isDigit⟩ :=
        ⟨hw, fun c hc => List.mem_takeWhile_imp hc⟩
      have htext : ∀ more, rest.dropWhile Char.isDigit = more →
          sign negative ++ whole ++ '.' :: rest =
            text ⟨negative, whole, rest.takeWhile Char.isDigit⟩ ++ more := by
        intro more hmore
        rw [text_fractional _ _ hne, List.append_assoc _ ('.' :: _), List.cons_append, ← hmore,
          List.takeWhile_append_dropWhile]
      split
      · rename_i more hmore
        rw [htext _ hmore]
        exact .secondPoint hregular hne
      · rename_i hpoint
        rw [htext _ rfl]
        exact .found hregular ((stops_dropWhile Char.isDigit rest).or_eq hpoint)
  · rename_i hpoint
    have hregular : Regular ⟨negative, whole, []⟩ := ⟨hw, by simp⟩
    have hfound := Run.found hregular (h.or_eq hpoint)
    rwa [text_integral] at hfound

/-- Reading on after the sign ends in one of the listed ways. -/
theorem run_readUnsigned (negative : Bool) {input : List Char}
    (hd : startsWithDigit input = true) :
    Run (sign negative ++ input) (readUnsigned negative input) := by
  unfold readUnsigned
  split
  · rename_i hzero
    obtain ⟨d, more, htake⟩ := hasLeadingZero_eq_true.mp hzero
    have hdigit : d.isDigit = true :=
      List.mem_takeWhile_imp (l := input) (by rw [htake]; simp)
    have hinput := List.takeWhile_append_dropWhile (p := Char.isDigit) (l := input)
    rw [htake, List.cons_append, List.cons_append] at hinput
    rw [← hinput]
    exact .leadingZero negative hdigit
  · rename_i hzero
    have hwhole := isWhole_takeWhile hd (by simpa using hzero)
    have hrun := run_readFraction negative hwhole _ (stops_dropWhile Char.isDigit input)
    rwa [List.append_assoc, List.takeWhile_append_dropWhile] at hrun

/-- Whatever happens when a numeral is read is listed. -/
theorem run_read (input : List Char) : Run input (read input) := by
  unfold read
  split
  · rename_i rest
    split
    · rename_i hd
      exact run_readUnsigned true hd
    · rename_i hd
      exact .signWithoutDigit (startsWithDigit_eq_false.mp (by simpa using hd))
  · rename_i hminus
    split
    · rename_i hd
      exact run_readUnsigned false hd
    · rename_i hd
      have hstops := startsWithDigit_eq_false.mp (by simpa using hd)
      exact .absent (hstops.or_eq hminus)

/-- A sign and a digit lead to the reader of what follows the sign. -/
theorem read_sign_append (negative : Bool) {input : List Char}
    (hd : startsWithDigit input = true) :
    read (sign negative ++ input) = readUnsigned negative input := by
  cases negative with
  | true => exact if_pos hd
  | false =>
    cases input with
    | nil => simp [startsWithDigit] at hd
    | cons d rest =>
      have hne : d ≠ '-' := by
        rintro rfl
        revert hd
        simp [startsWithDigit]
      -- a digit is no sign, so the unsigned branch is taken
      show read (d :: rest) = readUnsigned false (d :: rest)
      rw [read, if_pos hd]
      intro more hmore
      exact hne (List.cons.inj hmore).1

theorem startsWithDigit_whole {whole : List Char} (hw : IsWhole whole) (rest : List Char) :
    startsWithDigit (whole ++ rest) = true := by
  obtain ⟨d, ds, rfl, hd⟩ := hw.exists_cons
  exact hd

/-- A whole part before anything but a digit is read in full. -/
theorem read_whole_append (negative : Bool) {whole rest : List Char} (hw : IsWhole whole)
    (h : Stops Char.isDigit rest) :
    read (sign negative ++ whole ++ rest) = readFraction negative whole rest := by
  have hzero : ¬ hasLeadingZero whole = true := by
    rw [hasLeadingZero_eq_true]
    rintro ⟨d, tail, rfl⟩
    cases hw with
    | positive _ h0 _ => exact h0 rfl
  rw [List.append_assoc, read_sign_append negative (startsWithDigit_whole hw rest), readUnsigned,
    takeWhile_eq_of_stops hw.digits h, dropWhile_eq_of_stops hw.digits h, if_neg hzero]

/-- A fraction before anything but a digit is read in full, and a second point is refused. -/
theorem readFraction_append (negative : Bool) (whole : List Char) {fraction rest : List Char}
    (hf : fraction ≠ []) (hdigits : ∀ c ∈ fraction, c.isDigit = true)
    (h : Stops Char.isDigit rest) :
    readFraction negative whole ('.' :: (fraction ++ rest)) =
      if rest.head? = some '.' then .failed .secondPoint rest
      else .found ⟨negative, whole, fraction⟩ rest := by
  have hstart : startsWithDigit (fraction ++ rest) = true := by
    obtain ⟨d, ds, rfl⟩ := List.exists_cons_of_ne_nil hf
    exact hdigits d (by simp)
  rw [readFraction, if_neg (by simp [hstart]), takeWhile_eq_of_stops hdigits h,
    dropWhile_eq_of_stops hdigits h]
  split
  · rfl
  · rename_i hpoint
    rw [if_neg]
    intro hhead
    obtain ⟨more, hmore⟩ := List.head?_eq_some_iff.mp hhead
    exact hpoint more hmore

theorem read_text_append {n : Numeral} (hn : n.Regular) {rest : List Char}
    (h : Stops Char.isDigit rest) (hf : n.fraction ≠ [] ∨ rest.head? ≠ some '.') :
    read (n.text ++ rest) =
      if rest.head? = some '.' then .failed .secondPoint rest else .found n rest := by
  obtain ⟨negative, whole, fraction⟩ := n
  by_cases hempty : fraction = []
  · subst hempty
    have hpoint : rest.head? ≠ some '.' := by simpa using hf
    rw [text_integral, read_whole_append negative hn.whole h, if_neg hpoint, readFraction]
    intro more hmore
    exact hpoint (by rw [hmore]; rfl)
  · have hpoint : Stops Char.isDigit ('.' :: (fraction ++ rest)) := stops_cons.mpr (by decide)
    rw [text_fractional _ _ hempty, List.append_assoc _ ('.' :: _), List.cons_append,
      read_whole_append negative hn.whole hpoint, readFraction_append negative whole hempty
        hn.fraction h]

/-- Whatever is listed for a numeral happens. -/
theorem read_of_run {input : List Char} {r : Reading Numeral} (h : Run input r) :
    read input = r := by
  cases h with
  | absent h =>
    cases input with
    | nil => rfl
    | cons c rest =>
      have hc := stops_cons.mp h
      simp only [Bool.or_eq_false_iff, beq_eq_false_iff_ne] at hc
      rw [read, if_neg (by simp [startsWithDigit, hc.1])]
      intro more hmore
      exact hc.2 (List.cons.inj hmore).1
  | signWithoutDigit h => exact if_neg (by simp [startsWithDigit_eq_false.mpr h])
  | leadingZero negative hd =>
    rw [read_sign_append negative (by rfl), readUnsigned, if_pos]
    rw [List.takeWhile_cons_of_pos (by decide), List.takeWhile_cons_of_pos hd]
    rfl
  | pointWithoutDigit negative hw h =>
    rw [read_whole_append negative hw (stops_cons.mpr (by decide)), readFraction,
      if_pos (by simp [startsWithDigit_eq_false.mpr h])]
  | secondPoint hn hf =>
    rw [read_text_append hn (stops_cons.mpr (by decide)) (Or.inl hf),
      if_pos List.head?_cons]
  | @found n hn rest h =>
    have hdigit : Stops Char.isDigit rest := fun c hc => (Bool.or_eq_false_iff.mp (h c hc)).1
    have hpoint : rest.head? ≠ some '.' := by
      intro hhead
      exact absurd (h '.' hhead) (by decide)
    rw [read_text_append hn hdigit (Or.inr hpoint), if_neg hpoint]

theorem read_eq_absent {input : List Char} :
    read input = .absent ↔ Stops (fun c => c.isDigit || c == '-') input := by
  refine ⟨fun h => ?_, fun h => read_of_run (.absent h)⟩
  have hrun := run_read input
  rw [h] at hrun
  cases hrun with
  | absent h => exact h

end Numeral

/-! ## Classes of characters and the assignment symbol -/

theorem isDigit_iff {c : Char} : c.isDigit = true ↔ 0x30 ≤ c.toNat ∧ c.toNat ≤ 0x39 := by
  simp only [Char.isDigit, Bool.and_eq_true, decide_eq_true_eq, UInt32.le_iff_toNat_le]
  rfl

theorem isLower_iff {c : Char} : c.isLower = true ↔ 0x61 ≤ c.toNat ∧ c.toNat ≤ 0x7A := by
  show (decide (c.val ≥ 'a'.val) && decide (c.val ≤ 'z'.val)) = true ↔ _
  simp only [Bool.and_eq_true, decide_eq_true_eq, UInt32.le_iff_toNat_le]
  rfl

theorem Text.isAlphanumeric_of_isDigit {c : Char} (h : c.isDigit = true) :
    Text.isAlphanumeric c = true := by
  have hcode := isDigit_iff.mp h
  rw [isAlphanumeric, alphanumerics, Ranges.contains, if_neg (by omega), if_pos (by omega)]

theorem Text.isAlphanumeric_of_isLower {c : Char} (h : c.isLower = true) :
    Text.isAlphanumeric c = true := by
  have hcode := isLower_iff.mp h
  rw [isAlphanumeric, alphanumerics, Ranges.contains, if_neg (by omega), if_neg (by omega),
    Ranges.contains, if_neg (by omega), if_neg (by omega), Ranges.contains, if_neg (by omega),
    if_pos (by omega)]

namespace Language

theorem symbol_not_alphanumeric (lang : Language) : Text.isAlphanumeric lang.symbol = false := by
  have h := lang.admissible
  simp only [isAdmissible, Bool.and_eq_true, Bool.not_eq_true'] at h
  exact h.1.1

theorem symbol_not_blank (lang : Language) : Text.isBlank lang.symbol = false := by
  have h := lang.admissible
  simp only [isAdmissible, Bool.and_eq_true, Bool.not_eq_true'] at h
  exact h.1.2

theorem symbol_not_reserved (lang : Language) : lang.symbol ∉ reservedCharacters := by
  have h := lang.admissible
  simp only [isAdmissible, Bool.and_eq_true, Bool.not_eq_true'] at h
  simpa using h.2

theorem symbol_not_isDigit (lang : Language) : lang.symbol.isDigit = false := by
  by_contra h
  have halnum := Text.isAlphanumeric_of_isDigit (by simpa using h)
  simp [lang.symbol_not_alphanumeric] at halnum

theorem symbol_not_isLower (lang : Language) : lang.symbol.isLower = false := by
  by_contra h
  have halnum := Text.isAlphanumeric_of_isLower (by simpa using h)
  simp [lang.symbol_not_alphanumeric] at halnum

/-- What ends a name: an operator, the assignment symbol or a closing character. -/
theorem endsName_cons {lang : Language} {c : Char} {rest : List Char} :
    lang.endsName (c :: rest) = true ↔
      c ∈ ['+', '-', '*', '/', ')', ']', ','] ∨ c = lang.symbol := by
  simp only [endsName, operators, Operator.all, Operator.additive, Operator.multiplicative,
    Operator.symbol, closers, List.map_append, List.map_cons, List.map_nil, Bool.or_eq_true,
    List.contains_iff_mem, List.mem_append, List.mem_cons, List.not_mem_nil, or_false]
  grind

/-- A class stops where a name may end if it has none of the characters that end one. -/
theorem stops_of_endsName {lang : Language} {p : Char → Bool}
    (hfixed : ['+', '-', '*', '/', ')', ']', ','].any p = false)
    (hsymbol : p lang.symbol = false) {rest : List Char} (h : lang.endsName rest = true) :
    Stops p rest := by
  cases rest with
  | nil => exact stops_nil
  | cons c rest =>
    rw [stops_cons]
    rcases endsName_cons.mp h with hc | rfl
    · exact Bool.eq_false_iff.mpr (List.any_eq_false.mp hfixed c hc)
    · exact hsymbol

theorem stops_isLower {lang : Language} {rest : List Char} (h : lang.endsName rest = true) :
    Stops Char.isLower rest :=
  stops_of_endsName (by decide) lang.symbol_not_isLower h

/-- Where a name may end, a numeral ends as well. -/
theorem stops_numeral {lang : Language} {rest : List Char} (h : lang.endsName rest = true) :
    Stops (fun c => c.isDigit || c == '.') rest := by
  refine stops_of_endsName (by decide) ?_ h
  have hpoint : lang.symbol ≠ '.' := fun he => lang.symbol_not_reserved (by rw [he]; decide)
  simp [lang.symbol_not_isDigit, hpoint]

end Language

/-! ## Names -/

namespace Grammar

/-- What becomes of reading a name, one constructor for each ending. -/
inductive NameRun (lang : Language) : List Char → Reading String → Prop where
  | absent {input : List Char} (h : Stops Char.isLower input) : NameRun lang input .absent
  | runsOn {letters rest : List Char} (hn : IsName letters) (h : Stops Char.isLower rest)
      (he : lang.endsName rest = false) : NameRun lang (letters ++ rest) (.failed .nameRunsOn rest)
  | found {letters rest : List Char} (hn : IsName letters) (he : lang.endsName rest = true) :
      NameRun lang (letters ++ rest) (.found (String.ofList letters) rest)

theorem name_append (lang : Language) {letters rest : List Char} (hn : IsName letters)
    (h : Stops Char.isLower rest) :
    name lang (letters ++ rest) =
      if lang.endsName rest then .found (String.ofList letters) rest
      else .failed .nameRunsOn rest := by
  obtain ⟨c, letters, rfl⟩ := List.exists_cons_of_ne_nil hn.ne_nil
  rw [name, takeWhile_eq_of_stops hn.lower h, dropWhile_eq_of_stops hn.lower h]

theorem name_of_stops (lang : Language) {input : List Char} (h : Stops Char.isLower input) :
    name lang input = .absent := by
  have hnil : input.takeWhile Char.isLower = [] := takeWhile_eq_of_stops (w := []) (by simp) h
  rw [name, hnil]

/-- Whatever happens when a name is read is listed. -/
theorem nameRun_name (lang : Language) (input : List Char) :
    NameRun lang input (name lang input) := by
  have hsplit := List.takeWhile_append_dropWhile (p := Char.isLower) (l := input)
  have hstops := stops_dropWhile Char.isLower input
  by_cases hnil : input.takeWhile Char.isLower = []
  · rw [hnil, List.nil_append] at hsplit
    rw [hsplit] at hstops
    rw [name_of_stops lang hstops]
    exact .absent hstops
  · have hn : IsName (input.takeWhile Char.isLower) :=
      ⟨hnil, fun c hc => List.mem_takeWhile_imp hc⟩
    rw [← hsplit, name_append lang hn hstops]
    split
    · rename_i he
      exact .found hn he
    · rename_i he
      exact .runsOn hn hstops (by simpa using he)

/-- Whatever is listed for a name happens. -/
theorem name_of_nameRun {lang : Language} {input : List Char} {r : Reading String}
    (h : NameRun lang input r) : name lang input = r := by
  cases h with
  | absent h => exact name_of_stops lang h
  | runsOn hn h he => rw [name_append lang hn h, if_neg (by simp [he])]
  | found hn he => rw [name_append lang hn (Language.stops_isLower he), if_pos he]

theorem name_eq_absent {lang : Language} {input : List Char} :
    name lang input = .absent ↔ Stops Char.isLower input := by
  refine ⟨fun h => ?_, fun h => name_of_stops lang h⟩
  have hrun := nameRun_name lang input
  rw [h] at hrun
  cases hrun with
  | absent h => exact h

end Grammar

end PlaneCalc

import PlaneCalc.Proofs.Cursor.Atom
import PlaneCalc.Proofs.Cursor.Tokens

/-!
# Cursors stay on their line

Requests come in any order, and a cursor goes on after each one that it refuses. The line under it
never changes, and it stays between the two ends (`OnLine`). `Moves` lists what one request can do: the
cursor stands still, steps over the next character, goes to a place of the line that it was given, or
takes an atom off. The last is a walk of single requests (`Walked`), so a cursor that fails halfway
through an atom has passed only over characters that stood before it, too.

What one request keeps, every run of requests keeps. Since a place that was marked is then a place of
the same line for good, the cursor can go back to it whatever was asked in between.
-/

namespace PlaneCalc

/-- The walk that takes an atom off the line by single requests; a single request has none. -/
def Request.walk? (lang : Language) : Request → Option (Walk (Option Expr))
  | number => some (Walk.number lang)
  | vector => some (Walk.vector lang)
  | name => some (Walk.reference lang)
  | _ => none

namespace Cursor

variable {lang : Language} {line : String} {c : Cursor}

/-! ## Atoms are walks -/

/-- What is told of a walk that looked for an atom; of a mishap nothing can be told. -/
inductive Tells : Except Halt (Option Expr) → Except Diagnostic Reply → Prop where
  | nothing : Tells (.ok none) (.ok .nothing)
  | tree (e : Expr) : Tells (.ok (some e)) (.ok (.tree e))
  | fault (f : SyntaxFault) : Tells (.error (.fault (.reading f))) (.error f.diagnostic)

/-- An answer and a place are those of a walk, which has passed over what stood before the cursor. -/
structure Walked (c : Cursor) (walk : Walk (Option Expr))
    (outcome : Except Diagnostic Reply × Cursor) : Prop where
  told : Tells (walk c).1 outcome.1
  stands : (walk c).2 = outcome.2
  ahead : ∃ u, u <+: c.rest ∧ outcome.2 = c.past u

theorem atRest_between (done w rest : List Char) :
    (between done (w ++ rest)).atRest rest = between (done ++ w) rest := by
  simp only [atRest, between, List.length_append, List.append_assoc, mk.injEq, true_and]
  omega

/-- A walk that ends farther on, at a place of which its answer is told. -/
theorem walked_between {walk : Walk (Option Expr)} {done w rest : List Char}
    {answer : Except Halt (Option Expr)} {told : Except Diagnostic Reply}
    (h : walk (between done (w ++ rest)) = (answer, between (done ++ w) rest))
    (htells : Tells answer told) :
    Walked (between done (w ++ rest)) walk (told, between (done ++ w) rest) where
  told := by rwa [h]
  stands := by rw [h]
  ahead := by
    refine ⟨w, ?_, between_append done w rest⟩
    rw [rest_between]
    exact List.prefix_append w rest

/-- A request that is answered by a rule is a walk that follows the rule. -/
theorem walked_of_follows {request : Request} {walk : Walk (Option Expr)}
    {rule : List Char → Reading Expr}
    (hhandle : ∀ c : Cursor, c.handle lang request = c.afterReading (rule c.rest))
    (h : Walk.Follows walk rule) (hc : c.pos ≤ c.data.length) :
    Walked c walk (c.handle lang request) := by
  -- inside its line, a cursor stands between what it has passed and what is left
  rw [← between_take_rest hc]
  generalize c.data.take c.pos = done, c.rest = input
  have hfinds := h done input
  rw [hhandle, rest_between]
  generalize rule input = r at hfinds
  cases hfinds with
  | absent hwalk =>
    refine ⟨?_, ?_, [], List.nil_prefix, rfl⟩
    · rw [hwalk]
      exact .nothing
    · rw [hwalk]
      rfl
  | found hw hwalk =>
    subst hw
    rw [afterReading, atRest_between]
    exact walked_between hwalk (.tree _)
  | failed _ hw hwalk =>
    subst hw
    rw [afterReading, atRest_between]
    exact walked_between hwalk (.fault _)

theorem walked_of_walk? {r : Request} {walk : Walk (Option Expr)} (hr : r.walk? lang = some walk)
    (hc : c.pos ≤ c.data.length) : Walked c walk (c.handle lang r) := by
  cases r with
  | number =>
    obtain rfl := Option.some.inj hr
    exact walked_of_follows (fun _ => rfl) Walk.number_follows hc
  | vector =>
    obtain rfl := Option.some.inj hr
    exact walked_of_follows (fun _ => rfl) Walk.vector_follows hc
  | name =>
    obtain rfl := Option.some.inj hr
    exact walked_of_follows (fun _ => rfl) Walk.reference_follows hc
  | _ => nomatch hr

/-! ## What one request does -/

/-- What a request can do to a cursor. Only a request that succeeds, and one for an atom, moves it. -/
inductive Moves (lang : Language) (c : Cursor) :
    Request → Except Diagnostic Reply × Cursor → Prop where
  | stays (r : Request) (answer : Except Diagnostic Reply) : Moves lang c r (answer, c)
  | steps {r : Request} {reply : Reply} {x : Char} {rest : List Char}
      (hreply : reply ≠ .flag false) (hrest : c.rest = x :: rest) :
      Moves lang c r (.ok reply, c.past [x])
  | jumps {m : Nat} (hm : m ≤ c.data.length) :
      Moves lang c (.resetTo m) (.ok .nothing, ⟨c.data, m⟩)
  | takes {r : Request} {walk : Walk (Option Expr)} {outcome : Except Diagnostic Reply × Cursor}
      (hr : r.walk? lang = some walk) (h : Walked c walk outcome) : Moves lang c r outcome

theorem handle_resetTo {m : Nat} (hm : m ≤ c.data.length) :
    c.handle lang (.resetTo m) = (.ok .nothing, ⟨c.data, m⟩) := by
  rw [handle, if_pos (by omega), Int.toNat_natCast]

theorem handle_resetTo_of_outside (lang : Language) {m : Int}
    (hm : ¬ (0 ≤ m ∧ m ≤ c.data.length)) :
    ∃ d, c.handle lang (.resetTo m) = (.error d, c) ∧ d.category = .invalidMark := by
  rw [handle, if_neg hm]
  exact ⟨_, rfl, rfl⟩

/-- Whatever a request does is listed. -/
theorem moves_handle (lang : Language) (hc : c.pos ≤ c.data.length) (r : Request) :
    Moves lang c r (c.handle lang r) := by
  cases r with
  | currentChar =>
    rw [handle]
    split <;> exact .stays _ _
  | peekNext =>
    rw [handle]
    split <;> exact .stays _ _
  | advance =>
    rw [handle]
    split
    · exact .stays _ _
    · rename_i hrest
      exact .steps (by simp) hrest
  | resetTo m =>
    by_cases hm : 0 ≤ m ∧ m ≤ c.data.length
    · obtain ⟨n, rfl⟩ := Int.eq_ofNat_of_zero_le hm.1
      have hn : n ≤ c.data.length := Int.ofNat_le.mp hm.2
      rw [handle_resetTo hn]
      exact .jumps hn
    · obtain ⟨d, hd, _⟩ := handle_resetTo_of_outside lang hm
      rw [hd]
      exact .stays _ _
  | matchChar expected =>
    rw [handle]
    split
    · exact .stays _ _
    · rename_i hrest
      split
      · exact .steps (by simp) hrest
      · exact .stays _ _
  | number => exact .takes rfl (walked_of_walk? rfl hc)
  | vector => exact .takes rfl (walked_of_walk? rfl hc)
  | name => exact .takes rfl (walked_of_walk? rfl hc)
  | _ => exact .stays _ _

/-- A cursor stands on a line, from which nothing is missing but its blanks. -/
structure OnLine (line : String) (c : Cursor) : Prop where
  data : c.data = Text.compact line
  noBlanks : ∀ x ∈ c.data, Text.isBlank x = false
  inside : c.pos ≤ c.data.length

theorem OnLine.past (h : OnLine line c) {u : List Char} (hu : u <+: c.rest) :
    OnLine line (c.past u) := by
  refine ⟨h.data, h.noBlanks, ?_⟩
  have hlength := hu.length_le
  have hinside := h.inside
  rw [rest, List.length_drop] at hlength
  show c.pos + u.length ≤ c.data.length
  omega

/-- One request keeps the cursor on its line. -/
theorem OnLine.handle (h : OnLine line c) (lang : Language) (r : Request) :
    OnLine line (c.handle lang r).2 := by
  have hmoves := moves_handle lang h.inside r
  generalize c.handle lang r = outcome at hmoves
  cases hmoves with
  | stays => exact h
  | @steps _ _ x rest _ hrest =>
    refine h.past ?_
    rw [hrest]
    exact List.prefix_append [x] rest
  | jumps hm => exact ⟨h.data, h.noBlanks, hm⟩
  | takes _ hwalked =>
    obtain ⟨u, hu, hpast⟩ := hwalked.ahead
    rw [hpast]
    exact h.past hu

/-- The cursor after requests. -/
def after (lang : Language) (c : Cursor) (requests : List Request) : Cursor :=
  requests.foldl (fun c r => (c.handle lang r).2) c

/-- Every run of requests keeps the cursor on its line. -/
theorem OnLine.after (h : OnLine line c) (lang : Language) (requests : List Request) :
    OnLine line (c.after lang requests) := by
  induction requests generalizing c with
  | nil => exact h
  | cons r requests ih => exact ih (h.handle lang r)

end Cursor

end PlaneCalc

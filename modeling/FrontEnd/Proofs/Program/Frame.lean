-- SUMMARY: The run of a rule ends, keeps its depth within the limit, and moves past a token before anything is repeated.
import FrontEnd.Proofs.Program.Steps
import Mathlib.Data.Prod.Lex
import Mathlib.Order.WellFounded

/-!
# The frame of a rule

A rule that was called within the limit stays within it and leaves everything as
it was but the cursor, which moves forward in the list.

Its run ends because every step is paid for. While the cursor stays at a token,
the tasks cost less from step to step: of a routine that moves past a token, only
the steps in front of the move count, so what is behind it is free until then. The
same count says that nothing is repeated at one token. To call a rule costs the
same whatever else is to be done, so between two calls of one rule the cursor
moves, and likewise between two rounds of a loop.
-/

namespace FrontEnd

open Grammar

/-- In one list, the place with fewer tokens ahead is the later one. -/
theorem Lookahead.index_lt_index {c d : Lookahead} (htokens : d.tokens = c.tokens)
    (hahead : d.ahead.length < c.ahead.length) : c.index < d.index := by
  have hlength := congrArg List.length htokens
  rw [length_tokens, length_tokens] at hlength
  omega

namespace Program

open Parse

namespace Stage

variable {x y : Stage} {s : Descent} {m : Bool} {r : Rule}

-- ---------------------------------------------------------------------------
-- How long a run stays at a token
-- ---------------------------------------------------------------------------

/-- A bound on the steps at one token from entering the rule on, where those that follow the rule
are at most `k`. Only a program is followed by anything at the token that it began at. -/
def entryCost : Rule → Nat → Nat
  | .program, k => k + 12
  | .statement, _ => 8
  | .simpleStatement, _ => 5
  | .expr, _ => 12
  | .term, _ => 9
  | .factor, _ => 6

/-- The bound for a routine. -/
def routineCost : {m : Bool} → Routine m → Nat → Nat
  | _, .done, k => k + 1
  | _, .advance, _ | _, .consume _, _ | _, .fail _, _ => 1
  | _, .call r _, k => entryCost r k + 1
  | _, .seq a b, k => routineCost a (routineCost b k) + 1
  | _, .branch _ a b, k => max (routineCost a k) (routineCost b k) + 1
  | _, .loop _ a, k => max (routineCost a 0) k + 1

/-- The bound for all that is left to be done. -/
def cost : List Task → Nat
  | [] => 0
  | .enter r :: work => entryCost r (cost work)
  | .perform a :: work => routineCost a (cost work)
  | .close :: work => cost work + 1

theorem entryCost_eq (h : r ≠ .program) (k l : Nat) : entryCost r k = entryCost r l := by
  cases r with
  | program => exact absurd rfl h
  | _ => rfl

/-- What follows something that moves past a token is not reached at this one. -/
theorem routineCost_eq (a : Routine m) (h : m = true) (k l : Nat) :
    routineCost a k = routineCost a l := by
  induction a generalizing k l with
  | done | loop => cases h
  | advance | consume | fail => rfl
  | call r hr => simp only [routineCost, entryCost_eq hr k l]
  | @seq m n a b iha ihb =>
    cases m with
    | true => simp only [routineCost, iha rfl (routineCost b k) (routineCost b l)]
    | false => simp only [routineCost, ihb h k l]
  | branch test a b iha ihb =>
    rw [Bool.and_eq_true] at h
    simp only [routineCost, iha h.1 k l, ihb h.2 k l]

/-- Where the cost of entering a rule comes from: its routine, and closing the level behind it. -/
theorem routineCost_lt (r : Rule) (k : Nat) : routineCost (routine r) (k + 1) < entryCost r k := by
  cases r <;> simp only [routine, routineCost, entryCost] <;> omega

/-- What a run has left: the tokens ahead and the steps at this one, or after an error the tasks to
be dropped. -/
def left (x : Stage) : ℕ ×ₗ ℕ :=
  match x.outcome with
  | .ok _ s => toLex (s.cursor.ahead.length + 1, cost x.work)
  | .error _ _ => toLex (0, x.work.length)

theorem left_ok (a : Unit) (s : Descent) (work : List Task) :
    left ⟨.ok a s, work⟩ = toLex (s.cursor.ahead.length + 1, cost work) := rfl

theorem left_error (e : SyntaxError) (s : Descent) (work : List Task) :
    left ⟨.error e s, work⟩ = toLex (0, work.length) := rfl

/-- Moving past a token or failing leaves less, whatever is done next. -/
theorem left_lt_of_consuming {p : Parse Unit} (hp : Consuming p) (s : Descent) (work : List Task)
    (k : Nat) : left ⟨p s, work⟩ < toLex (s.cursor.ahead.length + 1, k) := by
  cases hs : p s with
  | ok _ s' =>
    rw [left_ok, Prod.Lex.toLex_lt_toLex]
    exact .inl (Nat.succ_lt_succ (hp s s' hs))
  | error e s' =>
    rw [left_error, Prod.Lex.toLex_lt_toLex]
    exact .inl (Nat.succ_pos _)

/-- Staying at a token is paid for. -/
theorem left_lt_of_cost {s s' : Descent} {v w : List Task} (hcursor : s'.cursor = s.cursor)
    (hcost : cost w < cost v) : left ⟨.ok () s', w⟩ < left ⟨.ok () s, v⟩ := by
  rw [left_ok, left_ok, hcursor, Prod.Lex.toLex_lt_toLex]
  exact .inr ⟨rfl, hcost⟩

theorem left_performing_lt (s : Descent) (work : List Task) (a : Routine m) :
    left (performing s work a) < left ⟨.ok () s, .perform a :: work⟩ := by
  cases a with
  | done => exact left_lt_of_cost rfl (Nat.lt_succ_self _)
  | advance => exact left_lt_of_consuming .advance s work _
  | consume kind => exact left_lt_of_consuming (.consume kind) s work _
  | fail expected => exact left_lt_of_consuming (.fail expected) s work _
  | call r hr => exact left_lt_of_cost rfl (Nat.lt_succ_self _)
  | seq a b => exact left_lt_of_cost rfl (Nat.lt_succ_self _)
  | branch test a b =>
    refine left_lt_of_cost rfl ?_
    split
    · exact Nat.lt_succ_of_le (Nat.le_max_left _ _)
    · exact Nat.lt_succ_of_le (Nat.le_max_right _ _)
  | loop test a =>
    refine left_lt_of_cost rfl ?_
    split
    · have hround : cost (.perform a :: .perform (.loop test a) :: work) = routineCost a 0 :=
        routineCost_eq a rfl _ _
      rw [hround]
      exact Nat.lt_succ_of_le (Nat.le_max_left _ _)
    · exact Nat.lt_succ_of_le (Nat.le_max_right _ _)

/-- Every step leaves less. -/
theorem Next.left_lt (h : x.Next y) : y.left < x.left := by
  cases h with
  | close o work =>
    cases o with
    | ok _ s => exact left_lt_of_cost rfl (Nat.lt_succ_self _)
    | error e s =>
      rw [closing_error, left_error, left_error, Prod.Lex.toLex_lt_toLex]
      exact .inr ⟨rfl, Nat.lt_succ_self _⟩
  | @drop e s t work ht =>
    rw [left_error, left_error, Prod.Lex.toLex_lt_toLex]
    exact .inr ⟨rfl, Nat.lt_succ_self _⟩
  | enter s r work =>
    rw [entering]
    split
    · rw [left_error, left_ok, Prod.Lex.toLex_lt_toLex]
      exact .inl (Nat.succ_pos _)
    · exact left_lt_of_cost rfl (routineCost_lt r (cost work))
  | perform s a work => exact left_performing_lt s work a

/-- No run goes on for ever. -/
theorem wellFounded_next : WellFounded fun y x : Stage => x.Next y :=
  Subrelation.wf Next.left_lt (InvImage.wf left wellFounded_lt)

/-- Every run comes to the end that its tasks promise. -/
theorem reaches_ending (x : Stage) : x.Reaches ⟨x.ending, []⟩ := by
  induction x using wellFounded_next.induction with
  | _ x ih =>
    by_cases hwork : x.work = []
    · have hx : x = ⟨x.ending, []⟩ := by
        obtain ⟨o, work⟩ := x
        obtain rfl : work = [] := hwork
        rfl
      rw [← hx]
    · obtain ⟨y, hxy⟩ := exists_next hwork
      have hy := ih y hxy
      rw [hxy.ending] at hy
      exact .head hxy hy

theorem ending_of_reaches (h : x.Reaches y) : y.ending = x.ending := by
  induction h with
  | refl => rfl
  | tail _ hnext ih => exact hnext.ending.trans ih

theorem left_lt_of_transGen (h : Relation.TransGen Next x y) : y.left < x.left := by
  induction h with
  | single hnext => exact hnext.left_lt
  | tail _ hnext ih => exact hnext.left_lt.trans ih

-- ---------------------------------------------------------------------------
-- Repetition
-- ---------------------------------------------------------------------------

theorem enter_program_notMem_performing (s : Descent) (work : List Task) (a : Routine m)
    (h : .enter .program ∉ work) : .enter .program ∉ (performing s work a).work := by
  cases a with
  | done | advance | consume | fail => exact h
  | call r hr =>
    intro hmem
    obtain heq | hmem := List.mem_cons.1 hmem
    · exact hr (Task.enter.inj heq).symm
    · exact h hmem
  | seq a b => simpa [performing] using h
  | branch test a b =>
    rw [performing]
    split <;> simpa using h
  | loop test a =>
    rw [performing]
    split <;> simpa using h

/-- No rule calls the one of programs. -/
theorem Next.enter_program_notMem (h : x.Next y) (hx : .enter .program ∉ x.work.tail) :
    .enter .program ∉ y.work := by
  cases h with
  | close o work => exact hx
  | drop e s work ht => exact hx
  | enter s r work =>
    rw [entering]
    split
    · exact hx
    · simpa using hx
  | perform s a work => exact enter_program_notMem_performing s work a hx

theorem enter_program_notMem (h : Relation.TransGen Next (calling r s) x) :
    .enter .program ∉ x.work := by
  induction h with
  | single hnext => exact hnext.enter_program_notMem List.not_mem_nil
  | tail _ hnext ih =>
    exact hnext.enter_program_notMem fun hmem => ih (List.mem_of_mem_tail hmem)

/-- Of two stages at the same token, the second one costs less. -/
theorem index_lt_of_cost_le {s s₁ s₂ : Descent} {v w : List Task}
    (h₁ : Within s ⟨.ok () s₁, v⟩) (h : Relation.TransGen Next ⟨.ok () s₁, v⟩ ⟨.ok () s₂, w⟩)
    (hcost : cost v ≤ cost w) : s₁.cursor.index < s₂.cursor.index := by
  have h₂ := h₁.reaches h.to_reflTransGen
  have hleft := left_lt_of_transGen h
  rw [left_ok, left_ok, Prod.Lex.toLex_lt_toLex] at hleft
  have hahead : s₂.cursor.ahead.length < s₁.cursor.ahead.length := by
    obtain hlt | ⟨-, hlt⟩ := hleft
    · exact Nat.lt_of_succ_lt_succ hlt
    · exact absurd hlt (Nat.not_lt.2 hcost)
  exact Lookahead.index_lt_index (h₂.onward.tokens.trans h₁.onward.tokens.symm) hahead

/-- A run that comes back to the same work, or calls a rule that it called before, has moved past a
token in between. -/
theorem index_lt_of_repeats {s₁ s₂ : Descent} {v w : List Task} (hs : s.depth ≤ s.limit)
    (h₁ : (calling r s).Reaches ⟨.ok () s₁, v⟩)
    (h : Relation.TransGen Next ⟨.ok () s₁, v⟩ ⟨.ok () s₂, w⟩)
    (hvw : v = w ∨ ∃ q v' w', v = .enter q :: v' ∧ w = .enter q :: w') :
    s₁.cursor.index < s₂.cursor.index := by
  have hwithin := (within_calling r hs).reaches h₁
  obtain rfl | ⟨q, v', w', rfl, rfl⟩ := hvw
  · exact index_lt_of_cost_le hwithin h (Nat.le_refl _)
  · by_cases hq : q = .program
    · subst hq
      exact absurd List.mem_cons_self (enter_program_notMem (.trans_right h₁ h))
    · exact index_lt_of_cost_le hwithin h (Nat.le_of_eq (entryCost_eq hq _ _))

end Stage

open Stage

/-- A rule is run from a state that is within the limit.

* However it ends, the tokens, the limit and the depth are as before, and the cursor stands at the
  token it began at or at a later one of the list. Where a rule other than that of programs
  succeeds, it is a later one.
* The steps of the run end, and from each of its stages they come to the outcome of the rule. All
  the time the tokens and the limit are as before, the depth counts the open levels and is within
  the limit, and the cursor has not moved back or off the list.
* Between two stages with the same work, as at the beginning of two rounds of a loop, and between
  two calls of one rule, as where it calls itself, the cursor moves past a token. -/
theorem parse_frame (r : Rule) {s : Descent} (hs : s.depth ≤ s.limit) :
    (s.Onward (final (parse r s)) ∧ (final (parse r s)).depth = s.depth ∧
      (r ≠ .program → ∀ s', parse r s = .ok () s' → s.cursor.index < s'.cursor.index)) ∧
    (Acc (fun y x => x.Next y) (calling r s) ∧
      ∀ x, (calling r s).Reaches x → x.Reaches ⟨parse r s, []⟩ ∧ s.Onward x.state ∧
        x.state.depth = s.depth + levels x.work ∧ x.state.depth ≤ s.limit ∧
        (s.limit < UInt64.size → x.state.depth < UInt64.size)) ∧
    ∀ s₁ s₂ v w, (calling r s).Reaches ⟨.ok () s₁, v⟩ →
      Relation.TransGen Next ⟨.ok () s₁, v⟩ ⟨.ok () s₂, w⟩ →
      (v = w ∨ ∃ q v' w', v = .enter q :: v' ∧ w = .enter q :: w') →
      s₁.cursor.index < s₂.cursor.index := by
  have hends {x : Stage} (hx : (calling r s).Reaches x) : x.Reaches ⟨parse r s, []⟩ := by
    have hending : x.ending = parse r s := ending_of_reaches hx
    rw [← hending]
    exact reaches_ending x
  have hfinal := (within_calling r hs).reaches (hends .refl)
  refine ⟨⟨hfinal.onward, hfinal.depth, fun hr s' hok => ?_⟩,
    ⟨wellFounded_next.apply _, fun x hx => ?_⟩, fun s₁ s₂ v w => index_lt_of_repeats hs⟩
  · have htokens : (final (parse r s)).cursor.tokens = s.cursor.tokens := hfinal.onward.tokens
    rw [hok] at htokens
    exact Lookahead.index_lt_index htokens (consuming_parse hr s s' hok)
  · have hwithin := (within_calling r hs).reaches hx
    exact ⟨hends hx, hwithin.onward, hwithin.depth, hwithin.depth_le,
      fun hlimit => Nat.lt_of_le_of_lt hwithin.depth_le hlimit⟩

/-- Below the largest limit of 64 bits, with two levels left, the factor `- NAME` opens both of
them. The factor inside it is entered behind the sign. -/
theorem parse_frame_sign :
    ∃ s s' : Descent, s.upcoming.kinds = [.minus, .name, .endOfFile] ∧ s.limit = UInt64.size - 1 ∧
      s.depth = UInt64.size - 3 ∧ parse .factor s = .ok () s' ∧ s'.depth = s.depth ∧
      s.cursor.index < s'.cursor.index ∧
      ∃ s₁ s₂ w, Relation.TransGen Next (calling .factor s) ⟨.ok () s₁, .enter .factor :: w⟩ ∧
        s.cursor.index < s₁.cursor.index ∧
        Next ⟨.ok () s₁, .enter .factor :: w⟩
          ⟨.ok () s₂, .perform (routine .factor) :: .close :: w⟩ ∧
        s₂.depth = s.limit ∧ s₂.depth < UInt64.size := by
  let sign : Token := ⟨.minus, "", {}⟩
  let name : Token := ⟨.name, "", {}⟩
  let last : Token := ⟨.endOfFile, "", {}⟩
  let s : Descent := ⟨⟨[], sign, [name, last]⟩, UInt64.size - 1, UInt64.size - 3⟩
  let s' : Descent := ⟨⟨[name, sign], last, []⟩, UInt64.size - 1, UInt64.size - 3⟩
  let s₁ : Descent := ⟨⟨[sign], name, [last]⟩, UInt64.size - 1, UInt64.size - 2⟩
  have hs : s.depth ≤ s.limit := by decide
  obtain ⟨⟨-, hdepth, hindex⟩, ⟨-, hrun⟩, hrepeats⟩ := parse_frame .factor hs
  have hok : parse .factor s = .ok () s' := rfl
  have hinner : Relation.TransGen Next (calling .factor s) ⟨.ok () s₁, [.enter .factor, .close]⟩ :=
    .tail (.tail (.tail (.tail (.single (.enter s .factor [])) (.perform _ _ _)) (.perform _ _ _))
      (.perform _ _ _)) (.perform _ _ _)
  have hopen : Next ⟨.ok () s₁, [.enter .factor, .close]⟩
      ⟨.ok () s₁.opened, [.perform (routine .factor), .close, .close]⟩ := .enter s₁ .factor [.close]
  have hnot : Rule.factor ≠ .program := by decide
  rw [hok] at hdepth
  refine ⟨s, s', rfl, rfl, rfl, hok, hdepth, hindex hnot s' hok, s₁, _, _, hinner,
    hrepeats _ _ _ _ .refl hinner (.inr ⟨_, _, _, rfl, rfl⟩), hopen, rfl, ?_⟩
  exact (hrun _ (hinner.to_reflTransGen.tail hopen)).2.2.2.2 (by decide)

end Program

end FrontEnd

-- SUMMARY: How a descent moves: forward in its token list, with the limit and the depth as they were.
import FrontEnd.Program.Descent

/-!
# Movement

Whatever part of a descent is run, and however it ends, it stands at the same
token as before or at a later one of the same list, under the same limit and at
the same depth. `Descent.Moved` says which tokens lie between. Every part of the
grammar moves past at least one token when it succeeds, apart from the program
itself, which may be empty.
-/

namespace FrontEnd

/-- The kinds of the tokens of a list. -/
def Tokens.kinds (ts : Tokens) : List Kind :=
  ts.map (·.kind)

namespace Tokens

@[simp] theorem kinds_nil : kinds [] = [] := rfl
@[simp] theorem kinds_cons (t : Token) (ts : Tokens) : kinds (t :: ts) = t.kind :: kinds ts := rfl
@[simp] theorem kinds_append (ts us : Tokens) : kinds (ts ++ us) = kinds ts ++ kinds us :=
  List.map_append

@[simp] theorem length_kinds (ts : Tokens) : (kinds ts).length = ts.length :=
  List.length_map _

end Tokens

theorem Lookahead.length_tokens (c : Lookahead) :
    c.tokens.length = c.index + 1 + c.ahead.length := by
  simp only [tokens, index, List.length_append, List.length_reverse, List.length_cons]
  omega

namespace Descent

/-- The kind of the current token. -/
def kind (s : Descent) : Kind :=
  s.cursor.current.kind

/-- The current token and those after it. -/
def upcoming (s : Descent) : Tokens :=
  s.cursor.current :: s.cursor.ahead

theorem kinds_upcoming (s : Descent) :
    s.upcoming.kinds = s.kind :: Tokens.kinds s.cursor.ahead := rfl

/-- How many more levels may be opened. -/
def room (s : Descent) : Nat :=
  s.limit - s.depth

/-- The state inside one more level. -/
def opened (s : Descent) : Descent :=
  { s with depth := s.depth + 1 }

/-- The state with its innermost level closed. -/
def closed (s : Descent) : Descent :=
  { s with depth := s.depth - 1 }

/-- The state `s'` is `s` moved past the tokens `u`. -/
structure Moved (s : Descent) (u : Tokens) (s' : Descent) : Prop where
  passed : s'.cursor.passed = u.reverse ++ s.cursor.passed
  upcoming : s.upcoming = u ++ s'.upcoming
  limit : s'.limit = s.limit
  depth : s'.depth = s.depth

namespace Moved

variable {s s' s'' : Descent} {u v : Tokens}

theorem refl (s : Descent) : s.Moved [] s :=
  ⟨rfl, rfl, rfl, rfl⟩

theorem trans (h : s.Moved u s') (h' : s'.Moved v s'') : s.Moved (u ++ v) s'' where
  passed := by simp [h'.passed, h.passed]
  upcoming := by simp [h.upcoming, h'.upcoming]
  limit := h'.limit.trans h.limit
  depth := h'.depth.trans h.depth

theorem length_ahead (h : s.Moved u s') :
    s.cursor.ahead.length = u.length + s'.cursor.ahead.length := by
  have := congrArg List.length h.upcoming
  simp only [Descent.upcoming, List.length_cons, List.length_append] at this
  omega

theorem kinds (h : s.Moved u s') : s.upcoming.kinds = Tokens.kinds u ++ s'.upcoming.kinds := by
  rw [h.upcoming, Tokens.kinds_append]

theorem tokens (h : s.Moved u s') : s'.cursor.tokens = s.cursor.tokens := by
  have := h.upcoming
  simp only [Descent.upcoming] at this
  simp [Lookahead.tokens, h.passed, this]

theorem index (h : s.Moved u s') : s'.cursor.index = s.cursor.index + u.length := by
  simp [Lookahead.index, h.passed, Nat.add_comm]

theorem room (h : s.Moved u s') : s'.room = s.room := by
  simp [Descent.room, h.limit, h.depth]

/-- Two states lie apart by one list of tokens. -/
theorem right_unique (h : s.Moved u s') (h' : s.Moved v s') : u = v :=
  List.append_cancel_right (h.upcoming.symm.trans h'.upcoming)

/-- The tokens say where moving past them leads. -/
theorem left_unique (h : s.Moved u s') (h' : s.Moved u s'') : s' = s'' := by
  have hpassed := h.passed.trans h'.passed.symm
  have hup := List.append_cancel_left (h.upcoming.symm.trans h'.upcoming)
  have hlimit := h.limit.trans h'.limit.symm
  have hdepth := h.depth.trans h'.depth.symm
  obtain ⟨⟨passed, current, ahead⟩, limit, depth⟩ := s'
  obtain ⟨⟨passed', current', ahead'⟩, limit', depth'⟩ := s''
  simp only [Descent.upcoming, List.cons.injEq] at hpassed hup hlimit hdepth
  simp [hpassed, hup, hlimit, hdepth]

/-- A state can be moved past any tokens that stand in front of others. -/
theorem exists_of_append {t : Token} {ts : Tokens} (h : s.upcoming = u ++ t :: ts) :
    ∃ s', s.Moved u s' ∧ s'.upcoming = t :: ts :=
  ⟨{ s with cursor := ⟨u.reverse ++ s.cursor.passed, t, ts⟩ }, ⟨rfl, h, rfl, rfl⟩, rfl⟩

/-- Moving past tokens can be stopped anywhere on the way. -/
theorem split (h : s.Moved (u ++ v) s') : ∃ m, s.Moved u m ∧ m.Moved v s' := by
  obtain ⟨t, ts, hts⟩ :=
    List.exists_cons_of_ne_nil (l := v ++ s'.upcoming) (by simp [Descent.upcoming])
  have hsplit : s.upcoming = u ++ t :: ts := by rw [h.upcoming, List.append_assoc, hts]
  obtain ⟨m, hm, hup⟩ := exists_of_append hsplit
  refine ⟨m, hm, ?_, hup.trans hts.symm, h.limit.trans hm.limit.symm, h.depth.trans hm.depth.symm⟩
  simp [h.passed, hm.passed]

/-- What a level moves past is moved past outside of it. -/
theorem closed (h : s.opened.Moved u s') : s.Moved u s'.closed :=
  ⟨h.passed, h.upcoming, h.limit, by simp [Descent.closed, h.depth, Descent.opened]⟩

end Moved

end Descent

-- ---------------------------------------------------------------------------
-- Outcomes
-- ---------------------------------------------------------------------------

namespace Parse

/-- How a part of a descent ends. -/
abbrev Outcome := EStateM.Result SyntaxError Descent Unit

/-- The state that is left. -/
def final : Outcome → Descent
  | .ok _ s => s
  | .error _ s => s

/-- The outcome outside of the level that it was reached in. -/
def closing : Outcome → Outcome
  | .ok _ s => .ok () s.closed
  | .error e s => .error e s.closed

@[simp] theorem final_ok (a : Unit) (s : Descent) : final (.ok a s) = s := rfl
@[simp] theorem final_error (e : SyntaxError) (s : Descent) : final (.error e s) = s := rfl
@[simp] theorem final_closing (o : Outcome) : final (closing o) = (final o).closed := by
  cases o <;> rfl

@[simp] theorem closing_ok (a : Unit) (s : Descent) :
    closing (.ok a s) = .ok () s.closed := rfl
@[simp] theorem closing_error (e : SyntaxError) (s : Descent) :
    closing (.error e s) = .error e s.closed := rfl

/-- The answer, without the state that is left. -/
def verdict : Outcome → Except SyntaxError Unit
  | .ok _ _ => .ok ()
  | .error e _ => .error e

@[simp] theorem verdict_ok (a : Unit) (s : Descent) : verdict (.ok a s) = .ok () := rfl
@[simp] theorem verdict_error (e : SyntaxError) (s : Descent) : verdict (.error e s) = .error e :=
  rfl
@[simp] theorem verdict_closing (o : Outcome) : verdict (closing o) = verdict o := by
  cases o <;> rfl

variable {α : Type} {p q body : Parse Unit} {s s' : Descent} {e : SyntaxError} {k : Kind}

@[simp] theorem kind_bind (f : Kind → Parse α) (s : Descent) : (kind >>= f) s = f s.kind s := rfl

@[simp] theorem pure_apply (s : Descent) : (pure () : Parse Unit) s = .ok () s := rfl

theorem bind_of_ok (h : p s = .ok () s') : (do p; q) s = q s' := by
  simp [bind, EStateM.bind, h]

theorem bind_of_error (h : p s = .error e s') : (do p; q) s = .error e s' := by
  simp [bind, EStateM.bind, h]

/-- At a token that is not the last, the cursor moves. -/
theorem advance_of_cons {t : Token} {ts : List Token} (h : s.cursor.ahead = t :: ts) :
    ∃ s', advance s = .ok () s' ∧ s.Moved [s.cursor.current] s' ∧ s'.upcoming = t :: ts := by
  refine ⟨{ s with cursor := ⟨s.cursor.current :: s.cursor.passed, t, ts⟩ }, ?_,
    ⟨rfl, ?_, rfl, rfl⟩, rfl⟩
  · simp only [advance, moving, Lookahead.advance, h]
  · simp [Descent.upcoming, h]

theorem advance_of_nil (h : s.cursor.ahead = []) :
    advance s = .error (.unexpectedEnd (some s.cursor.current)) s := by
  simp only [advance, moving, Lookahead.advance, h]

theorem consume_of_eq (h : s.kind = k) : consume k s = advance s := by
  have : s.cursor.check k = true := decide_eq_true h
  simp [consume, advance, moving, Lookahead.consume, this]

theorem consume_of_ne (h : s.kind ≠ k) :
    consume k s = .error (.unexpectedToken (.kind k) s.cursor.current) s := by
  have : s.cursor.check k = false := decide_eq_false h
  simp [consume, moving, Lookahead.consume, this, Lookahead.unexpected]

theorem nonterminal_of_le (h : s.limit ≤ s.depth) :
    nonterminal body s = .error (.nestingTooDeep s.limit s.cursor.current) s := by
  simp [nonterminal, h]

theorem nonterminal_of_lt (h : s.depth < s.limit) :
    nonterminal body s = closing (body s.opened) := by
  have : ¬ s.limit ≤ s.depth := by omega
  simp only [nonterminal, this, if_false]
  show _ = closing (body { s with depth := s.depth + 1 })
  cases body { s with depth := s.depth + 1 } <;> rfl

-- ---------------------------------------------------------------------------
-- Moving forward
-- ---------------------------------------------------------------------------

/-- However `p` ends, it has moved forward. -/
def Forward (p : Parse Unit) : Prop :=
  ∀ s : Descent, ∃ u, s.Moved u (final (p s))

namespace Forward

theorem ok (hp : Forward p) (h : p s = .ok () s') : ∃ u, s.Moved u s' := by
  simpa [h] using hp s

theorem error (hp : Forward p) (h : p s = .error e s') : ∃ u, s.Moved u s' := by
  simpa [h] using hp s

theorem length_le (hp : Forward p) (h : p s = .ok () s') :
    s'.cursor.ahead.length ≤ s.cursor.ahead.length := by
  obtain ⟨u, hu⟩ := hp.ok h
  have := hu.length_ahead
  omega

theorem pure : Forward (pure ()) :=
  fun s => ⟨[], .refl s⟩

theorem fail (x : Expected) : Forward (fail x) :=
  fun s => ⟨[], .refl s⟩

theorem advance : Forward advance := by
  intro s
  cases h : s.cursor.ahead with
  | nil => exact ⟨[], by simpa [advance_of_nil h] using .refl s⟩
  | cons t ts =>
    obtain ⟨s', hs', hmoved, -⟩ := advance_of_cons h
    exact ⟨_, by simpa [hs'] using hmoved⟩

theorem consume (k : Kind) : Forward (consume k) := by
  intro s
  by_cases h : s.kind = k
  · rw [consume_of_eq h]
    exact advance s
  · exact ⟨[], by simpa [consume_of_ne h] using .refl s⟩

theorem bind (hp : Forward p) (hq : Forward q) : Forward (do p; q) := by
  intro s
  cases h : p s with
  | ok _ s' =>
    obtain ⟨u, hu⟩ := hp.ok h
    obtain ⟨v, hv⟩ := hq s'
    exact ⟨u ++ v, by simpa [bind_of_ok h] using hu.trans hv⟩
  | error e s' => simpa [bind_of_error h] using hp.error h

theorem kind_bind {f : Kind → Parse Unit} (hf : ∀ k, Forward (f k)) : Forward (kind >>= f) :=
  fun s => hf s.kind s

theorem nonterminal (hp : Forward p) : Forward (nonterminal p) := by
  intro s
  by_cases h : s.depth < s.limit
  · obtain ⟨u, hu⟩ := hp s.opened
    exact ⟨u, by simpa [nonterminal_of_lt h] using hu.closed⟩
  · exact ⟨[], by simpa [nonterminal_of_le (Nat.le_of_not_lt h)] using .refl s⟩

theorem manyWithin (starts : Kind → Bool) (hp : Forward p) (fuel : List Token) :
    Forward (manyWithin starts p fuel) := by
  induction fuel with
  | nil =>
    refine kind_bind fun k => ?_
    split
    · exact hp
    · exact pure
  | cons _ fuel ih =>
    refine kind_bind fun k => ?_
    split
    · exact hp.bind ih
    · exact pure

theorem many (starts : Kind → Bool) (hp : Forward p) : Forward (many starts p) :=
  fun s => hp.manyWithin starts s.cursor.ahead s

theorem chain (separator : Kind) (hp : Forward p) : Forward (chain separator p) :=
  hp.bind (many _ (advance.bind hp))

end Forward

/-- Where `p` succeeds, it has moved past a token. -/
def Consuming (p : Parse Unit) : Prop :=
  ∀ s s' : Descent, p s = .ok () s' → s'.cursor.ahead.length < s.cursor.ahead.length

namespace Consuming

theorem fail (x : Expected) : Consuming (fail x) := by
  intro s s' h
  cases h

theorem advance : Consuming advance := by
  intro s s' h
  cases hs : s.cursor.ahead with
  | nil => simp [advance_of_nil hs] at h
  | cons t ts =>
    obtain ⟨m, hm, hmoved, -⟩ := advance_of_cons hs
    obtain rfl : m = s' := by simpa [hm] using h
    have := hmoved.length_ahead
    rw [← hs]
    simp only [List.length_singleton] at this
    omega

theorem consume (k : Kind) : Consuming (consume k) := by
  intro s s' h
  by_cases hk : s.kind = k
  · rw [consume_of_eq hk] at h
    exact advance s s' h
  · simp [consume_of_ne hk] at h

theorem bind (hp : Consuming p) (hq : Forward q) : Consuming (do p; q) := by
  intro s s' h
  cases hs : p s with
  | ok _ m =>
    rw [bind_of_ok hs] at h
    exact Nat.lt_of_le_of_lt (hq.length_le h) (hp s m hs)
  | error e m => simp [bind_of_error hs] at h

theorem kind_bind {f : Kind → Parse Unit} (hf : ∀ k, Consuming (f k)) : Consuming (kind >>= f) :=
  fun s s' h => hf s.kind s s' h

theorem nonterminal (hp : Consuming p) : Consuming (nonterminal p) := by
  intro s s' h
  by_cases hs : s.depth < s.limit
  · rw [nonterminal_of_lt hs] at h
    cases hm : p s.opened with
    | ok _ m =>
      obtain rfl : m.closed = s' := by simpa [hm] using h
      exact hp s.opened m hm
    | error e m => simp [hm] at h
  · simp [nonterminal_of_le (Nat.le_of_not_lt hs)] at h

end Consuming

end Parse

-- ---------------------------------------------------------------------------
-- The rules
-- ---------------------------------------------------------------------------

namespace Program

open Parse

theorem forward_termOf {f : Parse Unit} (hf : Forward f) : Forward (termOf f) :=
  (hf.chain .times).nonterminal

theorem forward_exprOf {f : Parse Unit} (hf : Forward f) : Forward (exprOf f) :=
  ((forward_termOf hf).chain .plus).nonterminal

theorem forward_factorOf {f : Parse Unit} (hf : Forward f) : Forward (factorOf f) := by
  refine .nonterminal (.kind_bind fun k => ?_)
  split
  · exact .bind .advance hf
  · exact .bind .advance hf
  · exact .advance
  · exact .advance
  · exact .bind .advance (.bind (forward_exprOf hf) (.consume _))
  · exact .fail _

theorem consuming_factorOf {f : Parse Unit} (hf : Forward f) : Consuming (factorOf f) := by
  refine .nonterminal (.kind_bind fun k => ?_)
  split
  · exact .bind .advance hf
  · exact .bind .advance hf
  · exact .advance
  · exact .advance
  · exact .bind .advance (.bind (forward_exprOf hf) (.consume _))
  · exact .fail _

theorem forward_factorWithin (fuel : List Token) : Forward (factorWithin fuel) := by
  induction fuel with
  | nil => exact forward_factorOf .pure
  | cons _ fuel ih => exact forward_factorOf ih

theorem forward_factor : Forward factor :=
  fun s => forward_factorWithin s.cursor.ahead s

theorem forward_term : Forward term :=
  forward_termOf forward_factor

theorem forward_expr : Forward expr :=
  forward_exprOf forward_factor

theorem forward_simpleStatement : Forward simpleStatement := by
  refine .nonterminal (.kind_bind fun k => ?_)
  split
  · exact .bind .advance (.bind (.consume _) forward_expr)
  · exact .bind .advance (.bind (.consume _) (.bind forward_expr (.consume _)))
  · exact .fail _

theorem forward_statement : Forward statement :=
  .nonterminal (.bind forward_simpleStatement (.consume _))

theorem forward_program : Forward program := by
  refine .nonterminal (.bind (.many _ forward_statement) (.kind_bind fun k => ?_))
  split
  · exact .fail _
  · exact .pure

theorem consuming_factor : Consuming factor := by
  intro s s' h
  unfold factor at h
  cases hfuel : s.cursor.ahead with
  | nil =>
    rw [hfuel] at h
    rw [← hfuel]
    exact consuming_factorOf .pure s s' h
  | cons _ fuel =>
    rw [hfuel] at h
    rw [← hfuel]
    exact consuming_factorOf (forward_factorWithin fuel) s s' h

theorem consuming_term : Consuming term :=
  .nonterminal (.bind consuming_factor (.many _ (.bind .advance forward_factor)))

theorem consuming_expr : Consuming expr :=
  .nonterminal (.bind consuming_term (.many _ (.bind .advance forward_term)))

theorem consuming_simpleStatement : Consuming simpleStatement := by
  refine .nonterminal (.kind_bind fun k => ?_)
  split
  · exact .bind .advance (.bind (.consume _) forward_expr)
  · exact .bind .advance (.bind (.consume _) (.bind forward_expr (.consume _)))
  · exact .fail _

theorem consuming_statement : Consuming statement :=
  .nonterminal (.bind consuming_simpleStatement (.consume _))

end Program

end FrontEnd

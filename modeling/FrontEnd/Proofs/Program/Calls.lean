-- SUMMARY: Whatever a place in a token list is asked to do, it stands behind as many tokens as it was moved past.
import FrontEnd.Proofs.Program.FirstError

/-!
# Calls

A place in a token list is used through four calls. Two of them may move it and
may fail; two of them only look at the current token. The list never changes, so
a place is known by how many tokens it has moved past. This is the number of
calls that were answered by a move, in whatever order the calls come and whether
or not some of them fail in between.

So the list and that number do as well (`Lookahead.Indexed`). A number may be off
the list, and then there is no current token to look at. This never comes up: the
two ways of keeping a place give the same answers (`calls?_indexed`).
-/

namespace FrontEnd

namespace Lookahead

/-- What a place can be asked to do. -/
inductive Call where
  | advance
  | consume (kind : Kind)
  | check (kind : Kind)
  | unexpected (expected : Expected)
deriving DecidableEq, Repr

inductive Answer where
  | moved
  | failed (e : SyntaxError)
  /-- Whether the current token is of the kind. -/
  | checked (fits : Bool)
  /-- The error that was put together, which is not a failure of the call. -/
  | made (e : SyntaxError)
deriving DecidableEq, Repr

/-- The place behind an attempt to move it. Where that fails, the old place is the one to go on
from. -/
def settle (c : Lookahead) : Except SyntaxError Lookahead → Answer × Lookahead
  | .ok d => (.moved, d)
  | .error e => (.failed e, c)

def call (c : Lookahead) : Call → Answer × Lookahead
  | .advance => c.settle c.advance
  | .consume kind => c.settle (c.consume kind)
  | .check kind => (.checked (c.check kind), c)
  | .unexpected expected => (.made (c.unexpected expected), c)

/-- The answers to some calls, and the place behind them. -/
def calls (c : Lookahead) : List Call → List Answer × Lookahead
  | [] => ([], c)
  | x :: xs =>
    let (answer, d) := c.call x
    let (answers, d) := d.calls xs
    (answer :: answers, d)

/-- The place in `ts` behind `j` tokens. -/
structure StandsAt (ts : Tokens) (j : Nat) (c : Lookahead) : Prop where
  tokens : c.tokens = ts
  index : c.index = j

variable {ts : Tokens} {c : Lookahead} {j : Nat} {k : Kind}

theorem StandsAt.lt_length (h : StandsAt ts j c) : j < ts.length := by
  have hlt := c.index_lt_length
  rwa [h.tokens, h.index] at hlt

theorem StandsAt.getElem? (h : StandsAt ts j c) : ts[j]? = some c.current := by
  have hget := c.getElem?_index
  rwa [h.tokens, h.index] at hget

-- ---------------------------------------------------------------------------
-- One call
-- ---------------------------------------------------------------------------

/-- A place moves exactly where a token stands behind it. -/
theorem call_advance (h : StandsAt ts j c) :
    (j + 1 < ts.length ∧ ∃ d, c.call .advance = (.moved, d) ∧ StandsAt ts (j + 1) d) ∨
      (j + 1 = ts.length ∧ c.call .advance = (.failed (.unexpectedEnd (some c.current)), c)) := by
  have hlength : ts.length = j + 1 + c.ahead.length := by
    rw [← h.tokens, ← h.index, length_tokens]
  simp only [call]
  cases hadvance : c.advance with
  | ok d =>
    obtain ⟨htokens, hnext⟩ := tokens_of_advance hadvance
    have hd : StandsAt ts (j + 1) d := ⟨htokens.trans h.tokens, by rw [hnext, h.index]⟩
    exact .inl ⟨hd.lt_length, d, rfl, hd⟩
  | error e =>
    unfold Lookahead.advance at hadvance
    split at hadvance
    · next hahead =>
      cases hadvance
      exact .inr ⟨by simpa [hahead] using hlength.symm, rfl⟩
    · cases hadvance

theorem call_consume_of_eq (h : c.current.kind = k) : c.call (.consume k) = c.call .advance := by
  have hcheck : c.check k = true := decide_eq_true h
  simp [call, Lookahead.consume, hcheck]

theorem call_consume_of_ne (h : c.current.kind ≠ k) :
    c.call (.consume k) = (.failed (.unexpectedToken (.kind k) c.current), c) := by
  have hcheck : c.check k = false := decide_eq_false h
  simp [call, Lookahead.consume, hcheck, settle, Lookahead.unexpected]

/-- A call moves the place by one token or leaves it where it is, and the answer says which. -/
theorem standsAt_call (h : StandsAt ts j c) (x : Call) :
    StandsAt ts (j + [(c.call x).1].count .moved) (c.call x).2 := by
  have hadvance : StandsAt ts (j + [(c.call .advance).1].count .moved) (c.call .advance).2 := by
    obtain ⟨-, d, hmoved, hd⟩ | ⟨-, hfailed⟩ := call_advance h
    · simpa [hmoved] using hd
    · simpa [hfailed] using h
  cases x with
  | advance => exact hadvance
  | consume k =>
    by_cases hk : c.current.kind = k
    · rwa [call_consume_of_eq hk]
    · simpa [call_consume_of_ne hk] using h
  | check k => exact h
  | unexpected x => exact h

theorem call_of_failed {x : Call} {e : SyntaxError} (h : (c.call x).1 = .failed e) :
    (c.call x).2 = c := by
  have hsettle (r : Except SyntaxError Lookahead) (h : (c.settle r).1 = .failed e) :
      (c.settle r).2 = c := by
    cases r with
    | ok d => cases h
    | error e' => rfl
  cases x with
  | advance | consume k => exact hsettle _ h
  | check k | unexpected x => rfl

-- ---------------------------------------------------------------------------
-- Any calls
-- ---------------------------------------------------------------------------

theorem standsAt_calls (h : StandsAt ts j c) (xs : List Call) :
    StandsAt ts (j + (c.calls xs).1.count .moved) (c.calls xs).2 := by
  induction xs generalizing c j with
  | nil => exact h
  | cons x xs ih =>
    have hrest := ih (standsAt_call h x)
    rw [Nat.add_assoc, ← List.count_append] at hrest
    exact hrest

-- ---------------------------------------------------------------------------
-- Places by index
-- ---------------------------------------------------------------------------

/-- A place as a list and an index into it, which nothing keeps from being off the list. -/
structure Indexed where
  tokens : Tokens
  index : Nat

namespace Indexed

/-- The token at the index. Off the list there is none. -/
def current? (p : Indexed) : Option Token :=
  p.tokens[p.index]?

def advance? (p : Indexed) : Option (Answer × Indexed) :=
  if p.index + 1 < p.tokens.length then
    some (.moved, ⟨p.tokens, p.index + 1⟩)
  else
    p.current?.map fun t => (.failed (.unexpectedEnd (some t)), p)

/-- The answer to a call and the place behind it, unless the call looks at a token off the list. -/
def call? (p : Indexed) : Call → Option (Answer × Indexed)
  | .advance => p.advance?
  | .consume kind => do
    let t ← p.current?
    if t.kind = kind then p.advance? else some (.failed (.unexpectedToken (.kind kind) t), p)
  | .check kind => p.current?.map fun t => (.checked (t.kind = kind), p)
  | .unexpected expected => p.current?.map fun t => (.made (.unexpectedToken expected t), p)

/-- The answers to some calls and the place behind them, unless one looks at a token off the
list. -/
def calls? (p : Indexed) : List Call → Option (List Answer × Indexed)
  | [] => some ([], p)
  | x :: xs => do
    let first ← p.call? x
    let rest ← first.2.calls? xs
    return (first.1 :: rest.1, rest.2)

end Indexed

/-- The place by its index. -/
def indexed (c : Lookahead) : Indexed :=
  ⟨c.tokens, c.index⟩

theorem StandsAt.indexed_eq (h : StandsAt ts j c) : c.indexed = ⟨ts, j⟩ := by
  rw [indexed, h.tokens, h.index]

theorem current?_indexed (c : Lookahead) : c.indexed.current? = some c.current :=
  c.getElem?_index

theorem advance?_indexed (c : Lookahead) :
    c.indexed.advance? = some ((c.call .advance).1, (c.call .advance).2.indexed) := by
  have hc : StandsAt c.tokens c.index c := ⟨rfl, rfl⟩
  obtain ⟨hlt, d, hmoved, hd⟩ | ⟨hlast, hfailed⟩ := call_advance hc
  · rw [hmoved, hd.indexed_eq]
    exact if_pos hlt
  · have hnot : ¬ c.indexed.index + 1 < c.indexed.tokens.length :=
      Nat.not_lt.2 (Nat.le_of_eq hlast.symm)
    rw [hfailed, Indexed.advance?, if_neg hnot, current?_indexed]
    rfl

/-- No call looks at a token off the list. -/
theorem call?_indexed (c : Lookahead) (x : Call) :
    c.indexed.call? x = some ((c.call x).1, (c.call x).2.indexed) := by
  cases x with
  | advance => exact advance?_indexed c
  | consume k =>
    simp only [Indexed.call?, current?_indexed, Option.bind_eq_bind, Option.bind_some]
    split
    · next hk => rw [call_consume_of_eq hk, advance?_indexed]
    · next hk => rw [call_consume_of_ne hk]
  | check k =>
    rw [Indexed.call?, current?_indexed]
    rfl
  | unexpected e =>
    rw [Indexed.call?, current?_indexed]
    rfl

theorem calls?_indexed (c : Lookahead) (xs : List Call) :
    c.indexed.calls? xs = some ((c.calls xs).1, (c.calls xs).2.indexed) := by
  induction xs generalizing c with
  | nil => rfl
  | cons x xs ih =>
    simp only [Indexed.calls?, call?_indexed, ih, Option.bind_eq_bind, Option.bind_some]
    rfl

-- ---------------------------------------------------------------------------
-- From the first place on
-- ---------------------------------------------------------------------------

theorem exists_ofTokens (h : ts ≠ []) : ∃ c, ofTokens ts = .ok c ∧ StandsAt ts 0 c := by
  obtain ⟨t, ts, rfl⟩ := List.exists_cons_of_ne_nil h
  have hstart : ofTokens (t :: ts) = .ok _ := rfl
  obtain ⟨htokens, hindex⟩ := tokens_of_ofTokens hstart
  exact ⟨_, hstart, htokens, hindex⟩

/-- A list that is not empty has a first place. Behind any calls from there, with `j` moves among
their answers, the current token is the one with index `j`, which is an index of the list. The next
call

* leaves the place as it is where it fails;
* to `advance` fails exactly at the last token, and the error names this token;
* to `consume` fails with the current token exactly where that is of another kind, and is a call to
  `advance` otherwise;
* to `check` or `unexpected` is about the current token and leaves the place as it is.

A place that is kept as an index gives the same answers, so its index is never off the list. -/
theorem ofTokens_calls (hts : ts ≠ []) :
    ∃ start, ofTokens ts = .ok start ∧ ∀ xs answers c, start.calls xs = (answers, c) →
      ∃ j t, j = answers.count .moved ∧ j < ts.length ∧ ts[j]? = some t ∧ c.tokens = ts ∧
        c.index = j ∧ c.current = t ∧
        (∀ x e, (c.call x).1 = .failed e → (c.call x).2 = c) ∧
        (∀ e, (c.call .advance).1 = .failed e ↔
          j + 1 = ts.length ∧ e = .unexpectedEnd (some t)) ∧
        (∀ k, ((c.call (.consume k)).1 = .failed (.unexpectedToken (.kind k) t) ↔ t.kind ≠ k) ∧
          (t.kind = k → c.call (.consume k) = c.call .advance)) ∧
        (∀ k, c.call (.check k) = (.checked (t.kind = k), c)) ∧
        (∀ x, c.call (.unexpected x) = (.made (.unexpectedToken x t), c)) ∧
        Indexed.calls? ⟨ts, 0⟩ xs = some (answers, ⟨ts, j⟩) := by
  obtain ⟨start, hstart, hfirst⟩ := exists_ofTokens hts
  refine ⟨start, hstart, fun xs answers c hcalls => ?_⟩
  have hc := standsAt_calls hfirst xs
  have hindexed := calls?_indexed start xs
  rw [hcalls, Nat.zero_add] at hc
  rw [hcalls, hfirst.indexed_eq, hc.indexed_eq] at hindexed
  have hadvance (e : SyntaxError) : (c.call .advance).1 = .failed e ↔
      answers.count .moved + 1 = ts.length ∧ e = .unexpectedEnd (some c.current) := by
    obtain ⟨hlt, d, hmoved, -⟩ | ⟨hlast, hfailed⟩ := call_advance hc
    · rw [hmoved]
      exact iff_of_false nofun fun h => Nat.ne_of_lt hlt h.1
    · rw [hfailed, Answer.failed.injEq, and_iff_right hlast, eq_comm]
  refine ⟨_, _, rfl, hc.lt_length, hc.getElem?, hc.tokens, hc.index, rfl,
    fun x e => call_of_failed, hadvance, fun k => ⟨?_, call_consume_of_eq⟩, fun k => rfl,
    fun x => rfl, hindexed⟩
  by_cases hk : c.current.kind = k
  · rw [call_consume_of_eq hk, hadvance]
    exact iff_of_false nofun fun h => h hk
  · rw [call_consume_of_ne hk]
    exact iff_of_true rfl hk

/-- In the list `NAME =`, a place that first fails to move past an `=` and then moves past the name
stands at the `=`. It can be asked for the `=`, and it cannot be moved again. -/
theorem ofTokens_calls_name_assign :
    ∃ start c, ofTokens (.ofKinds [.name, .assign]) = .ok start ∧
      start.calls [.consume .assign, .consume .name, .check .assign] =
        ([.failed (.unexpectedToken (.kind .assign) ⟨.name, "", {}⟩), .moved, .checked true], c) ∧
      c.index = 1 ∧ c.current = ⟨.assign, "", {}⟩ ∧
      (c.call (.consume .assign)).1 = .failed (.unexpectedEnd (some ⟨.assign, "", {}⟩)) := by
  have hts : Tokens.ofKinds [.name, .assign] ≠ [] := by decide
  obtain ⟨start, hstart, hbehind⟩ := ofTokens_calls hts
  obtain rfl := Except.ok.inj hstart
  obtain ⟨_, t, rfl, -, ht, -, hindex, hcurrent, -, hadvance, hconsume, -⟩ :=
    hbehind [.consume .assign, .consume .name, .check .assign] _ _ rfl
  obtain rfl : ⟨.assign, "", {}⟩ = t := Option.some.inj ht
  refine ⟨_, _, hstart, rfl, hindex, hcurrent, ?_⟩
  rw [(hconsume .assign).2 rfl, hadvance]
  exact ⟨rfl, rfl⟩

end Lookahead

end FrontEnd

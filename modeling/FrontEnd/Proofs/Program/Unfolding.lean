-- SUMMARY: The loops and the recursion of a descent satisfy the equations that the grammar suggests.
import FrontEnd.Proofs.Program.Movement

/-!
# Unfolding

The loops and the rules for expressions recurse on the list of tokens ahead,
which only serves to bound them. Every round of a loop and every factor inside
another one moves past a token first, so the bound is never met. What is left
are the equations without a bound: `many_of_starts` for loops, and `factor_eq`
for the knot that ties factors to expressions.
-/

namespace FrontEnd

namespace Parse

variable {p q f g body : Parse Unit} {s s' : Descent} {starts : Kind → Bool} {k : Kind} {n : Nat}

theorem bind_congr {q' : Parse Unit} (h : ∀ s', p s = .ok () s' → q s' = q' s') :
    (do p; q) s = (do p; q') s := by
  cases hp : p s with
  | ok _ s' => rw [bind_of_ok hp, bind_of_ok hp, h s' hp]
  | error e s' => rw [bind_of_error hp, bind_of_error hp]

theorem bind_congr_left {p' : Parse Unit} (h : p s = p' s) : (do p; q) s = (do p'; q) s := by
  cases hp : p s with
  | ok _ s' => rw [bind_of_ok hp, bind_of_ok (h ▸ hp)]
  | error e s' => rw [bind_of_error hp, bind_of_error (h ▸ hp)]

/-- Nothing that consumes succeeds at the last token. -/
theorem Consuming.bind_of_nil (hp : Consuming p) (h : s.cursor.ahead = []) :
    (do p; q) s = p s := by
  cases hs : p s with
  | ok _ s' => simpa [h] using hp s s' hs
  | error e s' => rw [bind_of_error hs]

-- ---------------------------------------------------------------------------
-- Loops
-- ---------------------------------------------------------------------------

theorem manyWithin_of_not_starts (fuel : List Token) (h : starts s.kind = false) :
    manyWithin starts body fuel s = .ok () s := by
  cases fuel <;> simp [manyWithin, h]

theorem manyWithin_nil_of_starts (h : starts s.kind = true) :
    manyWithin starts body [] s = body s := by
  simp [manyWithin, h]

theorem manyWithin_cons_of_starts {t : Token} {fuel : List Token} (h : starts s.kind = true) :
    manyWithin starts body (t :: fuel) s = (do body; manyWithin starts body fuel) s := by
  simp [manyWithin, h]

/-- The bound does not matter where it covers the tokens ahead. -/
theorem manyWithin_eq_of_le (hbody : Consuming body) (fuel fuel' : List Token)
    (h : s.cursor.ahead.length ≤ fuel.length) (h' : s.cursor.ahead.length ≤ fuel'.length) :
    manyWithin starts body fuel s = manyWithin starts body fuel' s := by
  induction fuel generalizing fuel' s with
  | nil =>
    have hnil : s.cursor.ahead = [] := List.length_eq_zero_iff.1 (Nat.le_zero.1 h)
    cases fuel' with
    | nil => rfl
    | cons t fuel' =>
      cases hs : starts s.kind with
      | false => rw [manyWithin_of_not_starts _ hs, manyWithin_of_not_starts _ hs]
      | true =>
        rw [manyWithin_nil_of_starts hs, manyWithin_cons_of_starts hs, hbody.bind_of_nil hnil]
  | cons t fuel ih =>
    cases hs : starts s.kind with
    | false => rw [manyWithin_of_not_starts _ hs, manyWithin_of_not_starts _ hs]
    | true =>
      rw [manyWithin_cons_of_starts hs]
      cases fuel' with
      | nil =>
        have hnil : s.cursor.ahead = [] := List.length_eq_zero_iff.1 (Nat.le_zero.1 h')
        rw [manyWithin_nil_of_starts hs, hbody.bind_of_nil hnil]
      | cons t' fuel' =>
        rw [manyWithin_cons_of_starts hs]
        refine bind_congr fun m hm => ih fuel' ?_ ?_
        all_goals
          have := hbody s m hm
          simp only [List.length_cons] at h h'
          omega

theorem many_of_not_starts (h : starts s.kind = false) : many starts body s = .ok () s :=
  manyWithin_of_not_starts _ h

/-- A loop at a token that starts a round is that round and the loop again. -/
theorem many_of_starts (hbody : Consuming body) (h : starts s.kind = true) :
    many starts body s = (do body; many starts body) s := by
  show manyWithin starts body s.cursor.ahead s = _
  cases hs : s.cursor.ahead with
  | nil => rw [manyWithin_nil_of_starts h, hbody.bind_of_nil hs]
  | cons t ahead =>
    rw [manyWithin_cons_of_starts h]
    refine bind_congr fun m hm => manyWithin_eq_of_le hbody _ _ ?_ (Nat.le_refl _)
    have := hbody s m hm
    simp only [hs, List.length_cons] at this
    omega

/-- The rounds of a loop begin at tokens that start one. -/
theorem many_congr (h : ∀ s : Descent, starts s.kind = true → f s = g s) :
    many starts f = many starts g := by
  have within : ∀ fuel s, manyWithin starts f fuel s = manyWithin starts g fuel s := by
    intro fuel
    induction fuel with
    | nil =>
      intro s
      cases hs : starts s.kind with
      | false => rw [manyWithin_of_not_starts _ hs, manyWithin_of_not_starts _ hs]
      | true => rw [manyWithin_nil_of_starts hs, manyWithin_nil_of_starts hs, h s hs]
    | cons t fuel ih =>
      intro s
      cases hs : starts s.kind with
      | false => rw [manyWithin_of_not_starts _ hs, manyWithin_of_not_starts _ hs]
      | true =>
        rw [manyWithin_cons_of_starts hs, manyWithin_cons_of_starts hs, bind_congr_left (h s hs)]
        exact bind_congr fun m _ => ih m
  funext s
  exact within _ s

/-- The separators of a chain are consumed as such. -/
theorem chain_eq (separator : Kind) (item : Parse Unit) :
    chain separator item =
      (do item; many (· = separator) (do consume separator; item)) := by
  unfold chain
  rw [many_congr fun s hs => bind_congr_left (consume_of_eq (of_decide_eq_true hs)).symm]

-- ---------------------------------------------------------------------------
-- Agreement
-- ---------------------------------------------------------------------------

/-- `f` and `g` do the same at every state with fewer than `n` tokens ahead. -/
def AgreeBelow (n : Nat) (f g : Parse Unit) : Prop :=
  ∀ s : Descent, s.cursor.ahead.length < n → f s = g s

namespace AgreeBelow

theorem refl (n : Nat) (f : Parse Unit) : AgreeBelow n f f :=
  fun _ _ => rfl

theorem bind (hp : Forward p) (hfg : AgreeBelow n p f) (h : AgreeBelow n q g) :
    AgreeBelow n (do p; q) (do f; g) := by
  intro s hs
  rw [← bind_congr_left (hfg s hs)]
  exact bind_congr fun m hm => h m (Nat.lt_of_le_of_lt (hp.length_le hm) hs)

theorem kind_bind {f g : Kind → Parse Unit} (h : ∀ k, AgreeBelow n (f k) (g k)) :
    AgreeBelow n (kind >>= f) (kind >>= g) :=
  fun s hs => h s.kind s hs

/-- Behind a token, one more may be ahead. -/
theorem advance (h : AgreeBelow n f g) :
    AgreeBelow (n + 1) (do advance; f) (do Parse.advance; g) := by
  intro s hs
  refine bind_congr fun m hm => h m ?_
  have := Consuming.advance s m hm
  omega

theorem nonterminal (h : AgreeBelow n f g) : AgreeBelow n (nonterminal f) (nonterminal g) := by
  intro s hs
  by_cases hroom : s.depth < s.limit
  · rw [nonterminal_of_lt hroom, nonterminal_of_lt hroom, h s.opened hs]
  · rw [nonterminal_of_le (Nat.le_of_not_lt hroom), nonterminal_of_le (Nat.le_of_not_lt hroom)]

theorem many (hf : Forward f) (h : AgreeBelow n f g) :
    AgreeBelow n (many starts f) (many starts g) := by
  have within : ∀ fuel, AgreeBelow n (manyWithin starts f fuel) (manyWithin starts g fuel) := by
    intro fuel
    induction fuel with
    | nil =>
      intro s hs
      cases hk : starts s.kind with
      | false => rw [manyWithin_of_not_starts _ hk, manyWithin_of_not_starts _ hk]
      | true => rw [manyWithin_nil_of_starts hk, manyWithin_nil_of_starts hk, h s hs]
    | cons t fuel ih =>
      intro s hs
      cases hk : starts s.kind with
      | false => rw [manyWithin_of_not_starts _ hk, manyWithin_of_not_starts _ hk]
      | true =>
        rw [manyWithin_cons_of_starts hk, manyWithin_cons_of_starts hk]
        exact bind hf h ih s hs
  exact fun s hs => within _ s hs

theorem chain (separator : Kind) (hf : Forward f) (h : AgreeBelow n f g) :
    AgreeBelow n (chain separator f) (chain separator g) :=
  bind hf h (many (.bind .advance hf) (bind .advance (refl n _) h))

end AgreeBelow

end Parse

namespace Program

open Parse

variable {f g : Parse Unit} {n : Nat}

theorem agree_exprOf (hf : Forward f) (h : AgreeBelow n f g) :
    AgreeBelow n (exprOf f) (exprOf g) :=
  .nonterminal (.chain _ (forward_termOf hf) (.nonterminal (.chain _ hf h)))

/-- Factors inside a factor have fewer tokens ahead. -/
theorem agree_factorOf (hf : Forward f) (h : AgreeBelow n f g) :
    AgreeBelow (n + 1) (factorOf f) (factorOf g) := by
  refine .nonterminal (.kind_bind fun k => ?_)
  cases k with
  | plus | minus => exact .advance h
  | leftParen => exact .advance (.bind (forward_exprOf hf) (agree_exprOf hf h) (.refl n _))
  | _ => exact .refl _ _

theorem agree_factorWithin (fuel fuel' : List Token) :
    AgreeBelow (min fuel.length fuel'.length + 1) (factorWithin fuel) (factorWithin fuel') := by
  induction fuel generalizing fuel' with
  | nil =>
    have none : AgreeBelow 0 (pure ()) (factorWithin fuel'.tail) := fun s hs => absurd hs (by omega)
    cases fuel' with
    | nil => exact .refl _ _
    | cons t fuel' => simpa [factorWithin] using agree_factorOf .pure none
  | cons t fuel ih =>
    cases fuel' with
    | nil =>
      have none : AgreeBelow 0 (factorWithin fuel) (pure ()) := fun s hs => absurd hs (by omega)
      simpa [factorWithin] using agree_factorOf (forward_factorWithin fuel) none
    | cons t' fuel' =>
      simpa [factorWithin, Nat.succ_min_succ] using
        agree_factorOf (forward_factorWithin fuel) (ih fuel')

/-- The factors inside a factor are factors. -/
theorem factor_eq : factor = factorOf factor := by
  funext s
  show factorWithin s.cursor.ahead s = factorOf factor s
  cases hs : s.cursor.ahead with
  | nil =>
    have none : AgreeBelow 0 (pure ()) factor := fun s hs => absurd hs (by omega)
    exact agree_factorOf .pure none s (by simp [hs])
  | cons t fuel =>
    have within : AgreeBelow (fuel.length + 1) (factorWithin fuel) factor := fun m hm =>
      agree_factorWithin fuel m.cursor.ahead m (by omega)
    exact agree_factorOf (forward_factorWithin fuel) within s (by simp [hs])

-- ---------------------------------------------------------------------------
-- Programs
-- ---------------------------------------------------------------------------

/-- What a program is inside its level: statements as long as one can start, and then the end of the
text. -/
def statementsToEnd : Parse Unit := do
  many Kind.startsStatement statement
  if (← kind) ≠ .endOfFile then
    fail (.kind .endOfFile)

theorem program_eq : program = nonterminal statementsToEnd := rfl

variable {s s' : Descent}

theorem statementsToEnd_of_ok (hstarts : s.kind.startsStatement = true)
    (h : statement s = .ok () s') : statementsToEnd s = statementsToEnd s' := by
  have hloop : many Kind.startsStatement statement s = many Kind.startsStatement statement s' := by
    rw [many_of_starts consuming_statement hstarts, bind_of_ok h]
  simp only [statementsToEnd, bind, EStateM.bind, hloop]

theorem statementsToEnd_of_error {e : SyntaxError} (hstarts : s.kind.startsStatement = true)
    (h : statement s = .error e s') : statementsToEnd s = .error e s' := by
  refine bind_of_error ?_
  rw [many_of_starts consuming_statement hstarts, bind_of_error h]

theorem statementsToEnd_of_not_starts (hstarts : s.kind.startsStatement = false)
    (hend : s.kind ≠ .endOfFile) :
    statementsToEnd s = .error (.unexpectedToken (.kind .endOfFile) s.cursor.current) s := by
  rw [statementsToEnd, bind_of_ok (many_of_not_starts hstarts), kind_bind, if_pos hend]
  rfl

theorem statementsToEnd_of_endOfFile (hend : s.kind = .endOfFile) :
    statementsToEnd s = .ok () s := by
  have hstarts : s.kind.startsStatement = false := by rw [hend]; rfl
  rw [statementsToEnd, bind_of_ok (many_of_not_starts hstarts), kind_bind, if_neg (fun h => h hend)]
  rfl

end Program

end FrontEnd

-- SUMMARY: A limit on nesting cuts a check short and changes nothing else about it.
import FrontEnd.Proofs.Program.FirstError

/-!
# Limits

Let two checks of one list run side by side under different limits. They do the
same until the lower limit refuses a level. There the one under it stops, and the
other one goes on and never moves back. So a check that is not cut short ends in
the same way under every higher limit, and the place where a check is cut short
moves only forward as the limit goes up.

`Prolonged` says this of a part of a descent, with one law for each way to put
parts together.
-/

namespace FrontEnd

open Grammar

/-- The state under another limit. -/
def Descent.under (limit : Nat) (s : Descent) : Descent :=
  { s with limit }

@[simp] theorem Descent.limit_under (limit : Nat) (s : Descent) :
    (s.under limit).limit = limit := rfl
@[simp] theorem Descent.depth_under (limit : Nat) (s : Descent) :
    (s.under limit).depth = s.depth := rfl
@[simp] theorem Descent.opened_under (limit : Nat) (s : Descent) :
    (s.under limit).opened = s.opened.under limit := rfl

namespace Parse

variable {p q : Parse Unit} {s m : Descent} {o o' : Outcome} {e : SyntaxError} {limit : Nat}

-- ---------------------------------------------------------------------------
-- Outcomes under two limits
-- ---------------------------------------------------------------------------

/-- The outcome with another limit in the state that is left. -/
def under (limit : Nat) : Outcome → Outcome
  | .ok _ s => .ok () (s.under limit)
  | .error e s => .error e (s.under limit)

@[simp] theorem under_ok (limit : Nat) (a : Unit) (s : Descent) :
    under limit (.ok a s) = .ok () (s.under limit) := rfl
@[simp] theorem under_error (limit : Nat) (e : SyntaxError) (s : Descent) :
    under limit (.error e s) = .error e (s.under limit) := rfl

theorem under_closing (limit : Nat) (o : Outcome) :
    under limit (closing o) = closing (under limit o) := by
  cases o <;> rfl

@[simp] theorem verdict_under (limit : Nat) (o : Outcome) :
    verdict (under limit o) = verdict o := by
  cases o <;> rfl

@[simp] theorem index_final_under (limit : Nat) (o : Outcome) :
    (final (under limit o)).cursor.index = (final o).cursor.index := by
  cases o <;> rfl

/-- Whether the run was refused a level. -/
def CutShort (o : Outcome) : Prop :=
  ∃ limit token s, o = .error (.nestingTooDeep limit token) s

/-- How a run that ends in `o` may end under the higher limit `limit`: in the same way, or, where it
was cut short, anywhere but before that place. -/
def Prolongs (limit : Nat) (o o' : Outcome) : Prop :=
  o' = under limit o ∨ CutShort o ∧ (final o).cursor.index ≤ (final o').cursor.index

namespace Prolongs

theorem of_ok (h : Prolongs limit (.ok () s) o') : o' = .ok () (s.under limit) := by
  obtain rfl | ⟨⟨_, _, _, hcut⟩, -⟩ := h
  · rfl
  · cases hcut

theorem closing (h : Prolongs limit o o') : Prolongs limit (closing o) (closing o') := by
  obtain rfl | ⟨⟨l, t, s, rfl⟩, hindex⟩ := h
  · exact .inl (under_closing limit o).symm
  · refine .inr ⟨⟨l, t, s.closed, rfl⟩, ?_⟩
    simp only [final_closing]
    exact hindex

theorem index_le (h : Prolongs limit o o') :
    (final o).cursor.index ≤ (final o').cursor.index := by
  obtain rfl | ⟨-, hindex⟩ := h
  · exact Nat.le_of_eq (index_final_under limit o).symm
  · exact hindex

end Prolongs

-- ---------------------------------------------------------------------------
-- The laws
-- ---------------------------------------------------------------------------

theorem Forward.index_le (hp : Forward p) (s : Descent) :
    s.cursor.index ≤ (final (p s)).cursor.index := by
  obtain ⟨u, hmoved⟩ := hp s
  have := hmoved.index
  omega

/-- A higher limit only prolongs the runs of `p`. -/
structure Prolonged (p : Parse Unit) : Prop where
  forward : Forward p
  prolongs : ∀ (s : Descent) (limit : Nat), s.limit ≤ limit →
    Prolongs limit (p s) (p (s.under limit))

namespace Prolonged

theorem pure : Prolonged (pure ()) where
  forward := .pure
  prolongs _ _ _ := .inl rfl

theorem fail (x : Expected) : Prolonged (fail x) where
  forward := .fail x
  prolongs _ _ _ := .inl rfl

/-- Moves of the cursor do not look at the limit. -/
theorem moving {move : Lookahead → Except SyntaxError Lookahead} (h : Forward (moving move)) :
    Prolonged (moving move) where
  forward := h
  prolongs s limit _ := by
    left
    have hcursor : (s.under limit).cursor = s.cursor := rfl
    unfold Parse.moving
    rw [hcursor]
    cases move s.cursor with
    | ok cursor => rfl
    | error e => rfl

theorem advance : Prolonged advance :=
  moving .advance

theorem consume (k : Kind) : Prolonged (consume k) :=
  moving (.consume k)

theorem kind_bind {f : Kind → Parse Unit} (h : ∀ k, Prolonged (f k)) :
    Prolonged (kind >>= f) where
  forward := .kind_bind fun k => (h k).forward
  prolongs s limit hlimit := (h s.kind).prolongs s limit hlimit

theorem bind (hp : Prolonged p) (hq : Prolonged q) : Prolonged (do p; q) where
  forward := hp.forward.bind hq.forward
  prolongs s limit hlimit := by
    have hprolongs := hp.prolongs s limit hlimit
    cases hs : p s with
    | ok _ m =>
      rw [hs] at hprolongs
      rw [bind_of_ok hs, bind_of_ok hprolongs.of_ok]
      obtain ⟨u, hmoved⟩ := hp.forward.ok hs
      apply hq.prolongs m limit
      rw [hmoved.limit]
      exact hlimit
    | error e m =>
      rw [hs] at hprolongs
      rw [bind_of_error hs]
      obtain hsame | ⟨hcut, hindex⟩ := hprolongs
      · exact .inl (bind_of_error hsame)
      · refine .inr ⟨hcut, Nat.le_trans hindex ?_⟩
        -- The run under the higher limit may come to `q`, which does not move back.
        cases hs' : p (s.under limit) with
        | ok _ m' =>
          rw [bind_of_ok hs']
          exact hq.forward.index_le m'
        | error e' m' =>
          exact Nat.le_of_eq (by rw [bind_of_error hs'])

/-- Under both limits the level is opened, or the lower one refuses it before anything is done. -/
theorem nonterminal (hp : Prolonged p) : Prolonged (nonterminal p) where
  forward := hp.forward.nonterminal
  prolongs s limit hlimit := by
    by_cases hroom : s.depth < s.limit
    · have hroom' : (s.under limit).depth < (s.under limit).limit :=
        Nat.lt_of_lt_of_le hroom hlimit
      rw [nonterminal_of_lt hroom, nonterminal_of_lt hroom']
      exact (hp.prolongs s.opened limit hlimit).closing
    · rw [nonterminal_of_le (Nat.le_of_not_lt hroom)]
      refine .inr ⟨⟨_, _, _, rfl⟩, ?_⟩
      exact hp.forward.nonterminal.index_le (s.under limit)

theorem manyWithin (starts : Kind → Bool) (hp : Prolonged p) (fuel : List Token) :
    Prolonged (manyWithin starts p fuel) := by
  induction fuel with
  | nil =>
    apply kind_bind
    intro k
    split
    · exact hp
    · exact pure
  | cons _ fuel ih =>
    apply kind_bind
    intro k
    split
    · exact bind hp ih
    · exact pure

theorem many (starts : Kind → Bool) (hp : Prolonged p) : Prolonged (many starts p) where
  forward := hp.forward.many starts
  prolongs s := (hp.manyWithin starts s.cursor.ahead).prolongs s

theorem chain (separator : Kind) (hp : Prolonged p) : Prolonged (chain separator p) :=
  bind hp (many _ (bind advance hp))

end Prolonged

end Parse

-- ---------------------------------------------------------------------------
-- The rules
-- ---------------------------------------------------------------------------

/-- Every error of a descent is reported at the token that it stops at. -/
theorem Parse.Justified.token? {a : Form} {u : Tokens} {s' : Descent} {e : SyntaxError}
    (h : Parse.Justified a u s' e) : e.token? = some s'.cursor.current := by
  cases e with
  | unexpectedToken x found => rw [SyntaxError.token?, h.1]
  | unexpectedEnd last => rw [SyntaxError.token?, h.1]
  | nestingTooDeep limit token => rw [SyntaxError.token?, h.2.1]

namespace Program

open Parse

theorem prolonged_exprOf {f : Parse Unit} (hf : Prolonged f) : Prolonged (exprOf f) :=
  .nonterminal (.chain _ (.nonterminal (.chain _ hf)))

theorem prolonged_factorOf {f : Parse Unit} (hf : Prolonged f) : Prolonged (factorOf f) := by
  apply Prolonged.nonterminal
  apply Prolonged.kind_bind
  intro k
  split
  · exact .bind .advance hf
  · exact .bind .advance hf
  · exact .advance
  · exact .advance
  · exact .bind .advance (.bind (prolonged_exprOf hf) (.consume _))
  · exact .fail _

theorem prolonged_factorWithin (fuel : List Token) : Prolonged (factorWithin fuel) := by
  induction fuel with
  | nil => exact prolonged_factorOf .pure
  | cons _ fuel ih => exact prolonged_factorOf ih

theorem prolonged_expr : Prolonged expr :=
  prolonged_exprOf
    ⟨forward_factor, fun s => (prolonged_factorWithin s.cursor.ahead).prolongs s⟩

theorem prolonged_simpleStatement : Prolonged simpleStatement := by
  apply Prolonged.nonterminal
  apply Prolonged.kind_bind
  intro k
  split
  · exact .bind .advance (.bind (.consume _) prolonged_expr)
  · exact .bind .advance (.bind (.consume _) (.bind prolonged_expr (.consume _)))
  · exact .fail _

theorem prolonged_statement : Prolonged statement :=
  .nonterminal (.bind prolonged_simpleStatement (.consume _))

theorem prolonged_program : Prolonged program := by
  apply Prolonged.nonterminal
  apply Prolonged.bind (.many _ prolonged_statement)
  apply Prolonged.kind_bind
  intro k
  split
  · exact .fail _
  · exact .pure

-- ---------------------------------------------------------------------------
-- Where a check stops
-- ---------------------------------------------------------------------------

/-- The index of the token that the check of a list stops at, whether or not it accepts the list. -/
def stop (limit : Nat) : Tokens → Nat
  | [] => 0
  | t :: ts => (final (program (start limit t ts))).cursor.index

variable {limit limit' : Nat} {ts : Tokens} {e : SyntaxError}

theorem getElem?_stop_cons (limit : Nat) (c : Token) (cs : Tokens) :
    (c :: cs)[stop limit (c :: cs)]? =
      some (final (program (start limit c cs))).cursor.current := by
  obtain ⟨u, hmoved⟩ := forward_program (start limit c cs)
  have hindex : stop limit (c :: cs) = 0 + u.length := hmoved.index
  rw [hindex, Nat.zero_add]
  exact hmoved.getElem?_upcoming

/-- An error is reported at the token where the check stops. -/
theorem getElem?_stop (h : check limit ts = .error e) : ts[stop limit ts]? = e.token? := by
  cases ts with
  | nil =>
    cases h
    rfl
  | cons c cs =>
    have hreads := reads_program (start limit c cs)
    rw [check_cons] at h
    rw [getElem?_stop_cons]
    cases ho : program (start limit c cs) with
    | ok _ s' => simp [ho] at h
    | error e' s' =>
      rw [ho] at h hreads
      cases h
      obtain ⟨u, -, hjust⟩ := hreads
      exact hjust.token?.symm

-- ---------------------------------------------------------------------------
-- Checks under two limits
-- ---------------------------------------------------------------------------

/-- The limit of the error is the limit of the check. -/
theorem limit_of_nestingTooDeep {l : Nat} {t : Token}
    (h : check limit ts = .error (.nestingTooDeep l t)) : l = limit := by
  cases ts with
  | nil => cases h
  | cons c cs =>
    have hreads := reads_program (start limit c cs)
    rw [check_cons] at h
    cases ho : program (start limit c cs) with
    | ok _ s' => simp [ho] at h
    | error e' s' =>
      rw [ho] at h hreads
      cases h
      obtain ⟨u, hmoved, hjust⟩ := hreads
      exact hjust.1.trans hmoved.limit

/-- A check that is not cut short ends in the same way under a higher limit. -/
theorem check_of_le (hlimit : limit ≤ limit')
    (h : ∀ l t, check limit ts ≠ .error (.nestingTooDeep l t)) :
    check limit' ts = check limit ts := by
  cases ts with
  | nil => rfl
  | cons c cs =>
    rw [check_cons] at h
    rw [check_cons, check_cons]
    obtain hsame | ⟨⟨l, t, s, hcut⟩, -⟩ :=
      prolonged_program.prolongs (start limit c cs) limit' hlimit
    · have hunder : (start limit c cs).under limit' = start limit' c cs := rfl
      rw [hunder] at hsame
      rw [hsame, verdict_under]
    · exact absurd (by rw [hcut, verdict_error]) (h l t)

/-- The place where a check stops moves only forward as the limit goes up. -/
theorem stop_mono (hlimit : limit ≤ limit') : stop limit ts ≤ stop limit' ts := by
  cases ts with
  | nil => exact Nat.le_refl _
  | cons c cs => exact (prolonged_program.prolongs (start limit c cs) limit' hlimit).index_le

/-- With three levels for each token the nesting is never too deep. -/
theorem check_ne_nestingTooDeep (hlimit : 3 * ts.length ≤ limit) (l : Nat) (t : Token) :
    check limit ts ≠ .error (.nestingTooDeep l t) := by
  intro h
  rcases check_cases hlimit with ⟨hok, -⟩ | ⟨hend, -⟩ | ⟨x, i, hi, herror, -⟩
  · simp [hok] at h
  · simp [hend] at h
  · simp [herror] at h

/-- A limit only cuts checks short:

* a check that is not cut short ends in the same way under every higher limit;
* where a check is cut short, it is at the token that it stops at and under its own limit; it is
  also cut short under every lower limit, not behind that place, and under a higher one it does not
  stop before that place;
* with three levels for each token no check is cut short. -/
theorem check_limits (limit : Nat) (ts : Tokens) :
    ((∀ l t, check limit ts ≠ .error (.nestingTooDeep l t)) →
      ∀ limit', limit ≤ limit' → check limit' ts = check limit ts) ∧
    (∀ l t, check limit ts = .error (.nestingTooDeep l t) →
      l = limit ∧ ts[stop limit ts]? = some t ∧
      (∀ limit' < limit, ∃ t', check limit' ts = .error (.nestingTooDeep limit' t') ∧
        ts[stop limit' ts]? = some t' ∧ stop limit' ts ≤ stop limit ts) ∧
      ∀ limit' > limit, stop limit ts ≤ stop limit' ts) ∧
    (3 * ts.length ≤ limit → ∀ l t, check limit ts ≠ .error (.nestingTooDeep l t)) := by
  refine ⟨fun h limit' hle => check_of_le hle h, ?_, check_ne_nestingTooDeep⟩
  intro l t h
  refine ⟨limit_of_nestingTooDeep h, getElem?_stop h, ?_, ?_⟩
  case refine_2 => exact fun limit' hlt => stop_mono (Nat.le_of_lt hlt)
  intro limit' hlt
  have hle : limit' ≤ limit := Nat.le_of_lt hlt
  obtain ⟨l', t', h'⟩ : ∃ l' t', check limit' ts = .error (.nestingTooDeep l' t') := by
    apply Classical.byContradiction
    intro hnot
    have hsame := check_of_le hle fun l' t' hcut => hnot ⟨l', t', hcut⟩
    exact hnot ⟨l, t, hsame ▸ h⟩
  obtain rfl := limit_of_nestingTooDeep h'
  exact ⟨t', h', getElem?_stop h', stop_mono hle⟩

/-- An assignment needs a fourth level where its expression begins. -/
theorem check_limits_assignment :
    check 3 (.ofKinds [.name, .assign, .name]) =
        .error (.nestingTooDeep 3 ⟨.name, "", {}⟩) ∧
      stop 3 (.ofKinds [.name, .assign, .name]) = 2 ∧
      ∀ limit > 3, 2 ≤ stop limit (.ofKinds [.name, .assign, .name]) := by
  have hcut : check 3 (.ofKinds [.name, .assign, .name]) =
      .error (.nestingTooDeep 3 ⟨.name, "", {}⟩) := rfl
  have hstop : stop 3 (.ofKinds [.name, .assign, .name]) = 2 := by decide +kernel
  obtain ⟨-, -, -, hhigher⟩ := (check_limits 3 _).2.1 _ _ hcut
  rw [hstop] at hhigher
  exact ⟨hcut, hstop, hhigher⟩

end Program

end FrontEnd

-- SUMMARY: What a descent expects where it meets an unexpected token: never a statement, and only what would go on with a program.
import FrontEnd.Proofs.Program.FirstError

/-!
# Expectations

A statement is only begun at a token that starts one, so the error that a
statement was expected is never raised. The end of the text is expected between
statements only. Both follow from one law for each construct of the descent, as
in `Movement`: whatever its parts expect, a construct expects nothing else.

Whatever is expected is the truth: it goes on with a program that the list in
front begins, and the token that stands in its place is not of that kind.
-/

namespace FrontEnd

open Grammar

/-- Whether this may be expected inside a statement. -/
def Expected.inStatement : Expected → Bool
  | kind .endOfFile | statement => false
  | kind _ | factor => true

/-- All that is allowed in place of an unexpected token, when no statement was expected. -/
theorem Expected.exists_kinds {x : Expected} (h : x ≠ .statement) :
    ∃ ks, ((∃ k, x = .kind k ∧ ks = [k]) ∨
        x = .factor ∧ ks = [.plus, .minus, .unsignedInt, .name, .leftParen]) ∧
      ∀ k, k ∈ ks ↔ x.admits k = true := by
  cases x with
  | kind k => exact ⟨[k], .inl ⟨k, rfl, rfl⟩, fun j => by simp [admits]⟩
  | statement => exact absurd rfl h
  | factor => exact ⟨_, .inr ⟨rfl, rfl⟩, by decide⟩

namespace Parse

variable {p q body : Parse Unit} {s : Descent} {o : Outcome} {starts : Kind → Bool}

/-- If the outcome is an unexpected token, what was expected may be expected inside a statement. -/
def Inside : Outcome → Prop
  | .error (.unexpectedToken x _) _ => x.inStatement = true
  | _ => True

/-- From every state `p` expects what may be expected inside a statement. -/
def Inner (p : Parse Unit) : Prop :=
  ∀ s, Inside (p s)

theorem Inside.closing (h : Inside o) : Inside (closing o) := by
  cases o with
  | ok _ s => trivial
  | error e s => cases e <;> exact h

theorem Inside.bind (hp : Inside (p s)) (hq : Inner q) : Inside ((do p; q) s) := by
  cases h : p s with
  | ok _ s' =>
    rw [bind_of_ok h]
    exact hq s'
  | error e s' =>
    rw [bind_of_error h, ← h]
    exact hp

theorem Inside.nonterminal (h : Inside (body s.opened)) : Inside (nonterminal body s) := by
  by_cases hroom : s.depth < s.limit
  · rw [nonterminal_of_lt hroom]
    exact h.closing
  · rw [nonterminal_of_le (Nat.le_of_not_lt hroom)]
    trivial

/-- The rounds of a loop begin at tokens that start one. -/
theorem Inside.manyWithin (h : ∀ s : Descent, starts s.kind = true → Inside (body s))
    (fuel : List Token) (s : Descent) : Inside (manyWithin starts body fuel s) := by
  induction fuel generalizing s with
  | nil =>
    cases hs : starts s.kind with
    | false =>
      rw [manyWithin_of_not_starts _ hs]
      trivial
    | true =>
      rw [manyWithin_nil_of_starts hs]
      exact h s hs
  | cons t fuel ih =>
    cases hs : starts s.kind with
    | false =>
      rw [manyWithin_of_not_starts _ hs]
      trivial
    | true =>
      rw [manyWithin_cons_of_starts hs]
      exact (h s hs).bind ih

namespace Inner

theorem pure : Inner (pure ()) :=
  fun _ => trivial

theorem fail {x : Expected} (hx : x.inStatement = true) : Inner (fail x) :=
  fun _ => hx

theorem advance : Inner advance := by
  intro s
  cases h : s.cursor.ahead with
  | nil =>
    rw [advance_of_nil h]
    trivial
  | cons t ts =>
    obtain ⟨s', hs', -⟩ := advance_of_cons h
    rw [hs']
    trivial

theorem consume {k : Kind} (hk : (Expected.kind k).inStatement = true) : Inner (consume k) := by
  intro s
  by_cases h : s.kind = k
  · rw [consume_of_eq h]
    exact advance s
  · rw [consume_of_ne h]
    exact hk

theorem kind_bind {f : Kind → Parse Unit} (h : ∀ k, Inner (f k)) : Inner (kind >>= f) :=
  fun s => h s.kind s

theorem bind (hp : Inner p) (hq : Inner q) : Inner (do p; q) :=
  fun s => (hp s).bind hq

theorem nonterminal (h : Inner body) : Inner (nonterminal body) :=
  fun s => (h s.opened).nonterminal

theorem chain (separator : Kind) (h : Inner p) : Inner (chain separator p) :=
  bind h fun s => .manyWithin (fun m _ => bind advance h m) s.cursor.ahead s

end Inner

end Parse

-- ---------------------------------------------------------------------------
-- The rules
-- ---------------------------------------------------------------------------

namespace Program

open Parse

variable {s s' : Descent} {limit : Nat}

theorem inner_exprOf {f : Parse Unit} (hf : Inner f) : Inner (exprOf f) :=
  .nonterminal (.chain _ (.nonterminal (.chain _ hf)))

theorem inner_factorOf {f : Parse Unit} (hf : Inner f) : Inner (factorOf f) := by
  refine .nonterminal (.kind_bind fun k => ?_)
  split
  · exact .bind .advance hf
  · exact .bind .advance hf
  · exact .advance
  · exact .advance
  · exact .bind .advance (.bind (inner_exprOf hf) (.consume rfl))
  · exact .fail rfl

theorem inner_factorWithin (fuel : List Token) : Inner (factorWithin fuel) := by
  induction fuel with
  | nil => exact inner_factorOf .pure
  | cons _ fuel ih => exact inner_factorOf ih

theorem inner_expr : Inner expr :=
  inner_exprOf fun s => inner_factorWithin s.cursor.ahead s

/-- At a token that starts a statement, none is missed. -/
theorem inside_simpleStatement (h : s.kind.startsStatement = true) :
    Inside (simpleStatement s) := by
  refine .nonterminal ?_
  have hopened : s.opened.kind.startsStatement = true := h
  generalize s.opened = s at hopened
  rw [kind_bind]
  obtain hk | hk := Kind.startsStatement_iff.1 hopened
  · rw [hk]
    exact (Inner.advance s).bind (.bind (.consume rfl) inner_expr)
  · rw [hk]
    exact (Inner.advance s).bind (.bind (.consume rfl) (.bind inner_expr (.consume rfl)))

theorem inside_statement (h : s.kind.startsStatement = true) : Inside (statement s) :=
  .nonterminal ((inside_simpleStatement (s := s.opened) h).bind (.consume rfl))

/-- Between statements the end of the text may be expected, too. -/
theorem statementsToEnd_expected {x : Expected} {found : Token}
    (h : statementsToEnd s = .error (.unexpectedToken x found) s') :
    x.inStatement = true ∨ x = .kind .endOfFile := by
  have hloop : Inside (many Kind.startsStatement statement s) :=
    .manyWithin (fun _ => inside_statement) s.cursor.ahead s
  cases ho : many Kind.startsStatement statement s with
  | error e m =>
    rw [statementsToEnd, bind_of_error ho] at h
    cases h
    rw [ho] at hloop
    exact .inl hloop
  | ok _ m =>
    rw [statementsToEnd, bind_of_ok ho, kind_bind] at h
    split at h <;> cases h
    exact .inr rfl

/-- An error of a check is one of the statements up to the end, unless no level may be opened. -/
theorem statementsToEnd_of_check_error {e : SyntaxError} {c : Token} {cs : Tokens}
    (hlimit : 0 < limit) (h : check limit (c :: cs) = .error e) :
    ∃ s', statementsToEnd (start limit c cs).opened = .error e s' := by
  rw [check_of_pos hlimit] at h
  cases ho : statementsToEnd (start limit c cs).opened with
  | ok _ s' => simp [ho] at h
  | error e' s' =>
    rw [ho] at h
    cases h
    exact ⟨s', rfl⟩

/-- No token is ever reported because a statement was expected in its place. -/
theorem check_ne_expecting_statement (limit : Nat) (ts : Tokens) (found : Token) :
    check limit ts ≠ .error (.unexpectedToken .statement found) := by
  intro h
  cases ts with
  | nil => cases h
  | cons c cs =>
    cases limit with
    | zero => cases h
    | succ limit =>
      obtain ⟨s', hs'⟩ := statementsToEnd_of_check_error (Nat.succ_pos _) h
      cases statementsToEnd_expected hs' <;> contradiction

/-- Where a check meets an unexpected token, the list in front of it goes on with all that was
expected. -/
theorem exists_of_check_unexpectedToken {ts : Tokens} {x : Expected} {found : Token}
    (h : check limit ts = .error (.unexpectedToken x found)) :
    ∃ i, ∃ hi : i < ts.length, found = ts[i] ∧ x.admits ts[i].kind = false ∧
      ∀ k, x.admits k = true → (Form.rule .program).Viable (ts.kinds.take i ++ [k]) := by
  cases ts with
  | nil => cases h
  | cons c cs =>
    have hreads := reads_program (start limit c cs)
    rw [check_cons] at h
    cases ho : program (start limit c cs) with
    | ok _ s' => simp [ho] at h
    | error e s' =>
      rw [ho] at h hreads
      cases h
      obtain ⟨u, hmoved, rfl, hnot, hviable⟩ := hreads
      have hcurrent : (c :: cs)[u.length]? = some s'.cursor.current := hmoved.getElem?_upcoming
      obtain ⟨hi, hget⟩ := List.getElem?_eq_some_iff.1 hcurrent
      refine ⟨u.length, hi, hget.symm, ?_, fun k hk => ?_⟩
      · rw [hget]
        exact hnot
      · have hfront : Tokens.kinds (c :: cs) = u.kinds ++ s'.upcoming.kinds := hmoved.kinds
        rw [hfront, List.take_left' (Tokens.length_kinds u)]
        exact hviable k hk

/-- An unexpected token is named truly, under every limit. The list in front of it begins a program,
and what was expected is some kind or a factor, but no statement. The token is of none of the kinds
that this allows, and with each of them in its place the list would still begin a program. -/
theorem check_expected_justified (limit : Nat) (ts : Tokens) (x : Expected) (found : Token)
    (h : check limit ts = .error (.unexpectedToken x found)) :
    ∃ i, ∃ hi : i < ts.length, found = ts[i] ∧ (Form.rule .program).Viable (ts.kinds.take i) ∧
      ∃ ks, ((∃ k, x = .kind k ∧ ks = [k]) ∨
          x = .factor ∧ ks = [.plus, .minus, .unsignedInt, .name, .leftParen]) ∧
        ts[i].kind ∉ ks ∧ ∀ k ∈ ks, (Form.rule .program).Viable (ts.kinds.take i ++ [k]) := by
  have hstatement : x ≠ .statement := fun hx => check_ne_expecting_statement limit ts found (hx ▸ h)
  obtain ⟨i, hi, rfl, hnot, hviable⟩ := exists_of_check_unexpectedToken h
  obtain ⟨ks, hks, hadmits⟩ := Expected.exists_kinds hstatement
  obtain ⟨k, hk⟩ := x.exists_admits
  refine ⟨i, hi, rfl, (hviable k hk).of_isPrefix (List.prefix_append _ _), ks, hks, ?_, ?_⟩
  · rw [hadmits, hnot]
    exact Bool.false_ne_true
  · exact fun k hk => hviable k ((hadmits k).1 hk)

/-- In `PRINT ( UNSIGNEDINT NAME` a closing parenthesis is expected at the name, and it would go on
with what is in front of it. -/
theorem check_expected_justified_unclosed :
    check 6 (.ofKinds [.print, .leftParen, .unsignedInt, .name]) =
        .error (.unexpectedToken (.kind .rightParen) ⟨.name, "", {}⟩) ∧
      (Form.rule .program).Viable [.print, .leftParen, .unsignedInt, .rightParen] := by
  have hcheck : check 6 (.ofKinds [.print, .leftParen, .unsignedInt, .name]) =
      .error (.unexpectedToken (.kind .rightParen) ⟨.name, "", {}⟩) := by cbv
  obtain ⟨i, hi, hfound, -, ks, ⟨k, hk, rfl⟩ | ⟨hx, -⟩, -, hviable⟩ :=
    check_expected_justified _ _ _ _ hcheck
  · obtain rfl := Expected.kind.inj hk
    -- The name is the last of the four tokens.
    obtain rfl | rfl | rfl | rfl : i = 0 ∨ i = 1 ∨ i = 2 ∨ i = 3 := by
      simp only [Tokens.ofKinds, List.length_map, List.length_cons, List.length_nil] at hi
      omega
    · cases hfound
    · cases hfound
    · cases hfound
    · exact ⟨hcheck, hviable _ (List.mem_singleton_self _)⟩
  · cases hx

end Program

end FrontEnd

-- SUMMARY: Under a limit that is high enough, a list is rejected at the first token after which no program is possible.
import FrontEnd.Proofs.Program.Locality
import FrontEnd.Proofs.Program.Nesting
import FrontEnd.Proofs.Program.Recognition

/-!
# The first error

Reading a list from the left, there is a last place up to which it could still
become a program. With three levels for each token the nesting is never too
deep, and then the check stops exactly there: at the token behind that place, or
at the end of a list that has no such token.

That a token is not blamed too early follows from completeness. Were a program
possible behind it, the descent would accept that program, and by locality it
would have passed the token in this list as well.
-/

namespace FrontEnd

open Grammar

/-- Tokens of the given kinds. -/
def Tokens.ofKinds (w : List Kind) : Tokens :=
  w.map (⟨·, "", {}⟩)

@[simp] theorem Tokens.kinds_ofKinds (w : List Kind) : (ofKinds w).kinds = w := by
  simp [kinds, ofKinds, Function.comp_def]

namespace Descent.Moved

variable {s s' : Descent} {u : Tokens}

/-- The current token stands behind the tokens that were passed. -/
theorem getElem?_upcoming (h : s.Moved u s') : s.upcoming[u.length]? = some s'.cursor.current := by
  rw [h.upcoming]
  simp [Descent.upcoming]

theorem take_kinds (h : s.Moved u s') :
    s.upcoming.kinds.take (u.length + 1) = u.kinds ++ [s'.kind] := by
  have hkinds : s.upcoming.kinds = (u.kinds ++ [s'.kind]) ++ Tokens.kinds s'.cursor.ahead := by
    rw [h.upcoming, Tokens.kinds_append, List.append_assoc]
    rfl
  rw [hkinds, List.take_left' (by simp)]

/-- What was passed begins with each shorter beginning of the list. -/
theorem take_kinds_isPrefix (h : s.Moved u s') {j : Nat} (hj : j < u.length) :
    s.upcoming.kinds.take (j + 1) <+: u.kinds := by
  rw [h.upcoming, Tokens.kinds_append, List.take_append_of_le_length (by rwa [Tokens.length_kinds])]
  exact ⟨_, List.take_append_drop _ _⟩

end Descent.Moved

namespace Program

open Parse

variable {limit : Nat} {ts : Tokens} {s s' : Descent} {u : Tokens}

/-- At an unexpected token no program is possible any more. -/
theorem not_viable_of_unexpectedToken {x : Expected} {found : Token} (hdepth : s.depth = 0)
    (h : program s = .error (.unexpectedToken x found) s') (hmoved : s.Moved u s') :
    ¬ (Form.rule .program).Viable (u.kinds ++ [s'.kind]) := by
  rintro ⟨t, hword⟩
  -- A program that begins with these kinds is accepted under a limit that is high enough for it.
  obtain ⟨c, cs, hcs⟩ : ∃ c cs, Tokens.ofKinds t.word = c :: cs :=
    List.exists_cons_of_ne_nil fun hnil => by
      have := congrArg Tokens.kinds hnil
      rw [Tokens.kinds_ofKinds] at this
      simp [this] at hword
  have hkinds : (start (max s.limit t.height) c cs).upcoming.kinds = t.word := by
    rw [upcoming_start, ← hcs, Tokens.kinds_ofKinds]
  obtain ⟨m, hm⟩ := program_ok (s := start (max s.limit t.height) c cs) t (Nat.le_max_right _ _)
    (hkinds ▸ List.prefix_rfl)
  -- But it is stopped at the same place as here.
  have hmoved' : s.Moved u (final (program s)) := by rwa [h]
  obtain ⟨m', v, -, -, hm'⟩ := (local_program s).exists_retold
    (Nat.le_max_left s.limit t.height : s.limit ≤ (start _ c cs).limit) hdepth hmoved'
    (by rwa [h, hkinds]) (by rw [h]; trivial)
  rw [hm, h] at hm'
  cases hm'

/-- With three levels for each token, a list that begins with a program is accepted. -/
theorem check_eq_ok_of_begins (hlimit : 3 * ts.length ≤ limit)
    (h : (Form.rule .program).Begins ts.kinds) : check limit ts = .ok () := by
  obtain ⟨t, hword⟩ := h
  refine (check_eq_ok limit ts).2 ⟨t, hword, ?_⟩
  have hheight := t.height_add_slack_le
  have hlength := hword.length_le
  rw [Tokens.length_kinds] at hlength
  omega

/-- With three levels for each token, the check ends in one of three ways. -/
theorem check_cases (hlimit : 3 * ts.length ≤ limit) :
    check limit ts = .ok () ∧ (Form.rule .program).Begins ts.kinds ∨
    check limit ts = .error (.unexpectedEnd ts.getLast?) ∧ (Form.rule .program).Viable ts.kinds ∨
    ∃ x, ∃ i, ∃ h : i < ts.length, check limit ts = .error (.unexpectedToken x ts[i]) ∧
      ¬ (Form.rule .program).Viable (ts.kinds.take (i + 1)) ∧
      ∀ j < i, (Form.rule .program).Viable (ts.kinds.take (j + 1)) := by
  cases ts with
  | nil => exact .inr (.inl ⟨rfl, .nil _⟩)
  | cons c cs =>
    have hreads := reads_program (start limit c cs)
    cases ho : program (start limit c cs) with
    | ok _ s' =>
      have hok : check limit (c :: cs) = .ok () := by rw [check_cons, ho, verdict_ok]
      obtain ⟨t, hword, -⟩ := (check_eq_ok limit _).1 hok
      exact .inl ⟨hok, t, hword⟩
    | error e s' =>
      have herror : check limit (c :: cs) = .error e := by rw [check_cons, ho, verdict_error]
      rw [ho] at hreads
      obtain ⟨u, hmoved, hjust⟩ := hreads
      have htokens : (c :: cs : Tokens) = u ++ s'.upcoming := hmoved.upcoming
      cases e with
      | unexpectedEnd last =>
        obtain ⟨rfl, hahead, -, hviable⟩ := hjust
        have hlast : (c :: cs : Tokens) = u ++ [s'.cursor.current] := by
          rw [htokens, Descent.upcoming, hahead]
        refine .inr (.inl ⟨?_, ?_⟩)
        · rw [herror, hlast]
          simp
        · rw [hlast, Tokens.kinds_append]
          exact hviable
      | unexpectedToken x found =>
        obtain ⟨rfl, -, hviable⟩ := hjust
        obtain ⟨k, hk⟩ := x.exists_admits
        obtain ⟨hi, hget⟩ := List.getElem?_eq_some_iff.1 hmoved.getElem?_upcoming
        refine .inr (.inr ⟨x, u.length, hi, ?_, ?_, fun j hj => ?_⟩)
        · rw [herror]
          exact congrArg (fun t => Except.error (SyntaxError.unexpectedToken x t)) hget.symm
        · rw [← upcoming_start limit c cs, hmoved.take_kinds]
          exact not_viable_of_unexpectedToken rfl ho hmoved
        · rw [← upcoming_start limit c cs]
          exact (hviable k hk).of_isPrefix
            ((hmoved.take_kinds_isPrefix hj).trans (List.prefix_append _ _))
      | nestingTooDeep l token =>
        exact absurd ho (shallow_program (start limit c cs) (by simp [start, Lookahead.index])
          hlimit l token s')

/-- With three levels for each token: the list is accepted when it begins with a program, it ends
too early when it does not but could still be continued to one, and otherwise the first token after
which no program is possible is the unexpected one. -/
theorem check_first_error (limit : Nat) (ts : Tokens) (hlimit : 3 * ts.length ≤ limit) :
    (check limit ts = .ok () ↔ (Form.rule .program).Begins ts.kinds) ∧
    (∀ last, check limit ts = .error (.unexpectedEnd last) ↔
      last = ts.getLast? ∧ ¬ (Form.rule .program).Begins ts.kinds ∧
        (Form.rule .program).Viable ts.kinds) ∧
    (¬ (Form.rule .program).Begins ts.kinds → ¬ (Form.rule .program).Viable ts.kinds →
      ∃ x, ∃ i, ∃ h : i < ts.length, check limit ts = .error (.unexpectedToken x ts[i]) ∧
        ¬ (Form.rule .program).Viable (ts.kinds.take (i + 1)) ∧
        ∀ j < i, (Form.rule .program).Viable (ts.kinds.take (j + 1))) := by
  have hbegins := check_eq_ok_of_begins hlimit
  rcases check_cases hlimit with ⟨hok, hb⟩ | ⟨hend, hv⟩ | ⟨x, i, hi, herror, hnot, hleast⟩
  · refine ⟨iff_of_true hok hb, fun last => ?_, fun h => absurd hb h⟩
    simp [hok, hb]
  · have hb : ¬ (Form.rule .program).Begins ts.kinds := fun h => by simp [hbegins h] at hend
    refine ⟨iff_of_false (by simp [hend]) hb, fun last => ?_, fun _ h => absurd hv h⟩
    simp [hend, hb, hv, eq_comm]
  · have hb : ¬ (Form.rule .program).Begins ts.kinds := fun h => by simp [hbegins h] at herror
    have hv : ¬ (Form.rule .program).Viable ts.kinds :=
      fun h => hnot (h.of_isPrefix ⟨_, List.take_append_drop _ _⟩)
    refine ⟨iff_of_false (by simp [herror]) hb, fun last => ?_,
      fun _ _ => ⟨x, i, hi, herror, hnot, hleast⟩⟩
    simp [herror, hv]

/-- The list `NAME =` is no program, but the beginning of one. -/
theorem check_first_error_name_assign :
    3 * (Tokens.ofKinds [.name, .assign]).length ≤ 6 ∧
      ¬ (Form.rule .program).Begins [.name, .assign] ∧
      (Form.rule .program).Viable [.name, .assign] :=
  have hends := (check_first_error 6 (.ofKinds [.name, .assign]) (by decide)).2.1
    (some ⟨.assign, "", {}⟩)
  ⟨by decide, (hends.1 rfl).2⟩

end Program

end FrontEnd

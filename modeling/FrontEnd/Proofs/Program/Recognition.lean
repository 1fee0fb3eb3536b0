-- SUMMARY: The check of a token list accepts exactly the programs of the grammar that stay within the limit.
import FrontEnd.Proofs.Program.Completeness
import FrontEnd.Proofs.Program.Soundness

/-!
# Recognition

A token list is accepted when its kinds begin with a program whose tree is no
higher than the limit. The kinds decide alone, and what stands behind the
end-of-file token is not looked at. There is at most one such tree, so its
height is a property of the list.
-/

namespace FrontEnd

open Grammar

namespace Program

/-- The state that a descent into a nonempty list begins in. -/
def start (limit : Nat) (t : Token) (ts : Tokens) : Descent :=
  { cursor := { current := t, ahead := ts }, limit }

@[simp] theorem upcoming_start (limit : Nat) (t : Token) (ts : Tokens) :
    (start limit t ts).upcoming = t :: ts := rfl

theorem check_cons (limit : Nat) (t : Token) (ts : Tokens) :
    check limit (t :: ts) = Parse.verdict (program (start limit t ts)) := by
  have hstart : ({ cursor := { current := t, ahead := ts }, limit } : Descent) =
      start limit t ts := rfl
  simp only [check, Lookahead.ofTokens, bind, Except.bind, hstart]
  cases program (start limit t ts) <;> rfl

theorem upcoming_opened_start (limit : Nat) (t : Token) (ts : Tokens) :
    (start limit t ts).opened.upcoming = t :: ts := rfl

/-- A limit that lets a program begin leaves the statements up to the end to be checked. -/
theorem check_of_pos {limit : Nat} (hlimit : 0 < limit) (t : Token) (ts : Tokens) :
    check limit (t :: ts) = Parse.verdict (statementsToEnd (start limit t ts).opened) := by
  have hroom : (start limit t ts).depth < (start limit t ts).limit := hlimit
  rw [check_cons, program_eq, Parse.nonterminal_of_lt hroom, Parse.verdict_closing]

/-- The empty program. -/
theorem check_endOfFile {limit : Nat} (hlimit : 0 < limit) (p : Position) :
    check limit [.endOfFile p] = .ok () := by
  rw [check_of_pos hlimit, statementsToEnd_of_endOfFile rfl]
  rfl

theorem check_eq_ok (limit : Nat) (ts : Tokens) :
    check limit ts = .ok () ↔
      ∃ t : Tree (.rule .program), t.word <+: ts.kinds ∧ t.height ≤ limit := by
  cases ts with
  | nil =>
    refine ⟨fun h => (by cases h), fun ⟨t, hword, _⟩ => ?_⟩
    -- Not even the empty program is without its end-of-file token.
    cases t.nullable_of_word_eq_nil (List.prefix_nil.1 hword)
  | cons c cs =>
    constructor
    · intro h
      rw [check_cons] at h
      have hreads := reads_program (start limit c cs)
      cases ho : program (start limit c cs) with
      | error e s' => simp [ho] at h
      | ok _ s' =>
        rw [ho] at hreads
        obtain ⟨u, t, hmoved, hword, hheight⟩ := hreads
        refine ⟨t, ⟨Tokens.kinds s'.cursor.ahead, ?_⟩, hheight⟩
        rw [← hword, List.append_assoc]
        exact hmoved.kinds.symm
    · rintro ⟨t, hword, hheight⟩
      obtain ⟨s', hs'⟩ := program_ok (s := start limit c cs) t hheight hword
      rw [check_cons, hs', Parse.verdict_ok]

/-- A list is accepted when it begins with a program whose tree is no higher than the limit, and it
begins with at most one program. -/
theorem check_eq_ok_iff (limit : Nat) (ts : Tokens) :
    (check limit ts = .ok () ↔
      ∃ t : Tree (.rule .program), t.word <+: ts.kinds ∧ t.height ≤ limit) ∧
    ∀ t t' : Tree (.rule .program), t.word <+: ts.kinds → t'.word <+: ts.kinds → t = t' :=
  ⟨check_eq_ok limit ts, fun _ _ => Tree.program_unique⟩

end Program

end FrontEnd

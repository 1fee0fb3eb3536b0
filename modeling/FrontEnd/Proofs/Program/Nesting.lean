-- SUMMARY: Three levels for each token are enough for every tree of the grammar and for every descent.
import FrontEnd.Proofs.Grammar.Tree
import FrontEnd.Proofs.Program.Movement

/-!
# Nesting

A level is opened for each rule in use. Between two tokens at most three rules
begin, so three levels for each token are enough, whatever the tokens are. For
trees this bounds the height by the length of the word. For a descent it is an
invariant: the number of open levels stays behind three times the number of
tokens up to the current one.
-/

namespace FrontEnd

namespace Grammar

/-- By how much the height of a tree of the rule stays below three times the length of its word. -/
def Rule.slack : Rule → Nat
  | program => 2
  | statement => 7
  | simpleStatement => 5
  | expr => 0
  | term => 1
  | factor => 2

def Form.slack : Form → Nat
  | token _ => 3
  | rule r => r.slack
  | seq a b => a.slack + b.slack
  | either a b => min a.slack b.slack
  | many _ => 0

/-- The node of a rule uses up one level. -/
theorem Rule.slack_lt (r : Rule) : r.slack < r.body.slack := by
  cases r <;> decide

theorem Tree.height_add_slack_le {a : Form} (t : Tree a) :
    t.height + a.slack ≤ 3 * t.word.length := by
  induction t with
  | leaf k => simp [Form.slack]
  | @node r t ih =>
    have := r.slack_lt
    simp only [height_node, word_node, Form.slack]
    omega
  | seq t u iht ihu =>
    simp only [height_seq, word_seq, List.length_append, Form.slack]
    omega
  | left t ih =>
    simp only [height_left, word_left, Form.slack]
    omega
  | right t ih =>
    simp only [height_right, word_right, Form.slack]
    omega
  | nil => simp [Form.slack]
  | cons t u iht ihu =>
    simp only [height_cons, word_cons, List.length_append, Form.slack] at ihu ⊢
    omega

end Grammar

namespace Parse

variable {p q : Parse Unit} {c d : Nat}

/-- From a state that `c` more levels would leave within three for each token up to the current one,
`p` never finds the nesting too deep under a limit of three for each token of the list. -/
def Shallow (c : Nat) (p : Parse Unit) : Prop :=
  ∀ s : Descent, s.depth + c ≤ 3 * (s.cursor.index + 1) → 3 * s.cursor.tokens.length ≤ s.limit →
    ∀ limit token s', p s ≠ .error (.nestingTooDeep limit token) s'

namespace Shallow

theorem mono (h : Shallow c p) (hcd : c ≤ d) : Shallow d p :=
  fun s hs => h s (by omega)

theorem pure : Shallow c (pure ()) := by
  intro s _ _ limit token s' h
  cases h

theorem fail (x : Expected) : Shallow c (fail x) := by
  intro s _ _ limit token s' h
  cases h

theorem advance : Shallow c advance := by
  intro s _ _ limit token s' h
  cases hs : s.cursor.ahead with
  | nil => simp [advance_of_nil hs] at h
  | cons t ts =>
    obtain ⟨m, hm, -⟩ := advance_of_cons hs
    simp [hm] at h

theorem consume (k : Kind) : Shallow c (consume k) := by
  intro s hs hlimit limit token s' h
  by_cases hk : s.kind = k
  · rw [consume_of_eq hk] at h
    exact advance s hs hlimit limit token s' h
  · simp [consume_of_ne hk] at h

theorem kind_bind {f : Kind → Parse Unit} (h : ∀ k, Shallow c (f k)) : Shallow c (kind >>= f) :=
  fun s => h s.kind s

theorem bind (hforward : Forward p) (hp : Shallow c p) (hq : Shallow c q) :
    Shallow c (do p; q) := by
  intro s hs hlimit limit token s' h
  cases hm : p s with
  | error e m =>
    rw [bind_of_error hm, ← hm] at h
    exact hp s hs hlimit limit token s' h
  | ok _ m =>
    rw [bind_of_ok hm] at h
    obtain ⟨u, hmoved⟩ := hforward.ok hm
    have hindex := hmoved.index
    exact hq m (by rw [hmoved.depth]; omega) (by rw [hmoved.tokens, hmoved.limit]; exact hlimit)
      limit token s' h

/-- Behind a token there is room for three more levels. -/
theorem behind (hq : Shallow (c + 3) q) : Shallow c (do Parse.advance; q) := by
  intro s hs hlimit limit token s' h
  cases hahead : s.cursor.ahead with
  | nil => simp [bind_of_error (advance_of_nil hahead)] at h
  | cons t ts =>
    obtain ⟨m, hm, hmoved, -⟩ := advance_of_cons hahead
    rw [bind_of_ok hm] at h
    have hindex : m.cursor.index = s.cursor.index + 1 := hmoved.index
    exact hq m (by rw [hmoved.depth]; omega) (by rw [hmoved.tokens, hmoved.limit]; exact hlimit)
      limit token s' h

theorem nonterminal (hp : Shallow c p) : Shallow (c + 1) (nonterminal p) := by
  intro s hs hlimit limit token s' h
  have hindex := s.cursor.index_lt_length
  rw [nonterminal_of_lt (by omega)] at h
  have hopen : s.opened.depth + c ≤ 3 * (s.opened.cursor.index + 1) := by
    simp only [Descent.opened]
    omega
  cases hm : p s.opened with
  | ok _ m => simp [hm] at h
  | error e m =>
    obtain ⟨rfl, -⟩ : e = .nestingTooDeep limit token ∧ _ := by simpa [hm] using h
    exact hp s.opened hopen hlimit limit token m hm

theorem many (starts : Kind → Bool) (hforward : Forward p) (hp : Shallow c p) :
    Shallow c (many starts p) := by
  have within : ∀ fuel, Shallow c (manyWithin starts p fuel) := by
    intro fuel
    induction fuel with
    | nil =>
      refine kind_bind fun k => ?_
      split
      · exact hp
      · exact pure
    | cons _ fuel ih =>
      refine kind_bind fun k => ?_
      split
      · exact bind hforward hp ih
      · exact pure
  exact fun s => within s.cursor.ahead s

theorem chain (separator : Kind) (hforward : Forward p) (hp : Shallow c p) :
    Shallow c (chain separator p) :=
  bind hforward hp (many _ (.bind .advance hforward) (behind (hp.mono (by omega))))

end Shallow

end Parse

namespace Program

open Parse

theorem shallow_exprOf {f : Parse Unit} (hf : Forward f) (h : Shallow 1 f) : Shallow 3 (exprOf f) :=
  .nonterminal (.chain _ (forward_termOf hf) (.nonterminal (.chain _ hf h)))

theorem shallow_factorOf {f : Parse Unit} (hf : Forward f) (h : Shallow 1 f) :
    Shallow 1 (factorOf f) := by
  refine .nonterminal (.kind_bind fun k => ?_)
  split
  · exact .behind (h.mono (by omega))
  · exact .behind (h.mono (by omega))
  · exact .advance
  · exact .advance
  · exact .behind (.bind (forward_exprOf hf) (shallow_exprOf hf h) (.consume _))
  · exact .fail _

theorem shallow_factorWithin (fuel : List Token) : Shallow 1 (factorWithin fuel) := by
  induction fuel with
  | nil => exact shallow_factorOf .pure .pure
  | cons _ fuel ih => exact shallow_factorOf (forward_factorWithin fuel) ih

theorem shallow_expr : Shallow 3 expr :=
  shallow_exprOf forward_factor fun s => shallow_factorWithin s.cursor.ahead s

theorem shallow_simpleStatement : Shallow 1 simpleStatement := by
  refine .nonterminal (.kind_bind fun k => ?_)
  split
  · exact .behind (.bind (.consume _) (.consume _) shallow_expr)
  · exact .behind (.bind (.consume _) (.consume _) (.bind forward_expr shallow_expr (.consume _)))
  · exact .fail _

theorem shallow_statement : Shallow 2 statement :=
  .nonterminal (.bind forward_simpleStatement shallow_simpleStatement (.consume _))

theorem shallow_program : Shallow 3 program := by
  refine .nonterminal (.bind (.many _ forward_statement)
    (.many _ forward_statement shallow_statement) (.kind_bind fun k => ?_))
  split
  · exact .fail _
  · exact .pure

end Program

end FrontEnd

-- SUMMARY: A descent succeeds on every word of the grammar whose tree fits under the limit.
import FrontEnd.Proofs.Grammar.Predictive
import FrontEnd.Proofs.Program.Unfolding

/-!
# Completeness

`Accepts` says that a part of a descent passes over every word of a form whose
tree is no higher than the room that is left, provided that the kind behind the
word does not go on with it. It has one law for each way to put forms together,
and the laws follow the way the functions are written.
-/

namespace FrontEnd

open Grammar

namespace Parse

/-- `p` passes over the words of `a` whose trees have at most `n` levels and fit into the room. -/
def Accepts (n : Nat) (p : Parse Unit) (a : Form) : Prop :=
  ∀ (s : Descent) (t : Tree a) (k : Kind) (ks : List Kind),
    t.height ≤ n → t.height ≤ s.room → s.upcoming.kinds = t.word ++ k :: ks →
    a.continues k = false →
    ∃ s' u, p s = .ok () s' ∧ s.Moved u s' ∧ s'.upcoming.kinds = k :: ks

variable {p q : Parse Unit} {a b : Form} {r : Rule} {n m : Nat} {starts : Kind → Bool}

theorem kind_of_upcoming {s : Descent} {k : Kind} {ks : List Kind}
    (h : s.upcoming.kinds = k :: ks) : s.kind = k :=
  (List.cons.inj h).1

namespace Accepts

theorem mono (h : Accepts n p a) (hm : m ≤ n) : Accepts m p a :=
  fun s t k ks hn => h s t k ks (Nat.le_trans hn hm)

theorem consume (n : Nat) (k : Kind) : Accepts n (consume k) (.token k) := by
  intro s t j js _ _ hkinds _
  cases t with
  | leaf k =>
    have hahead : Tokens.kinds s.cursor.ahead = j :: js := (List.cons.inj hkinds).2
    obtain ⟨c, cs, hcs⟩ := List.exists_cons_of_ne_nil (l := s.cursor.ahead) (by
      rintro hnil
      simp [hnil] at hahead)
    obtain ⟨s', hs', hmoved, hup⟩ := advance_of_cons hcs
    refine ⟨s', _, ?_, hmoved, ?_⟩
    · rw [consume_of_eq (kind_of_upcoming hkinds), hs']
    · rw [hup, ← hcs, hahead]

theorem bind (hp : Accepts n p a) (hq : Accepts n q b) (hab : (Form.seq a b).Predictive) :
    Accepts n (do p; q) (.seq a b) := by
  intro s t k ks hn hroom hkinds hk
  cases t with
  | seq t u =>
    simp only [Tree.height_seq, Nat.max_le] at hn hroom
    simp only [Form.continues, Bool.or_eq_false_iff, Bool.and_eq_false_imp] at hk
    obtain ⟨j, js, hj, hcont⟩ := u.exists_next k ks hab.2.2 hk.2
    obtain ⟨m, v, hm, hmoved, hup⟩ := hp s t j js hn.1 hroom.1 (by simpa [hj] using hkinds) hcont
    obtain ⟨s', w, hs', hmoved', hup'⟩ :=
      hq m u k ks hn.2 (hmoved.room ▸ hroom.2) (hup.trans hj.symm) hk.1
    exact ⟨s', v ++ w, by rw [bind_of_ok hm, hs'], hmoved.trans hmoved', hup'⟩

theorem either (hl : Accepts n p a) (hr : Accepts n p b) : Accepts n p (.either a b) := by
  intro s t k ks hn hroom hkinds hk
  simp only [Form.continues, Bool.or_eq_false_iff] at hk
  cases t with
  | left t => exact hl s t k ks hn hroom hkinds hk.1
  | right t => exact hr s t k ks hn hroom hkinds hk.2

/-- For a token it is enough to move past it. -/
theorem token {k : Kind} (h : ∀ s : Descent, s.kind = k → p s = advance s) :
    Accepts n p (.token k) := by
  intro s t j js hn hroom hkinds hj
  cases t with
  | leaf k =>
    have hk : s.kind = k := kind_of_upcoming hkinds
    rw [h s hk, ← consume_of_eq hk]
    exact consume n k s (.leaf k) j js hn hroom hkinds hj

/-- For a form that begins with a token it is enough to do right at that token. -/
theorem behind {k : Kind} (hq : Accepts n q b) (hab : (Form.seq (.token k) b).Predictive)
    (h : ∀ s : Descent, s.kind = k → p s = (do advance; q) s) :
    Accepts n p (.seq (.token k) b) := by
  intro s t j js hn hroom hkinds hj
  have hk : k = s.kind := by
    simpa [Form.starts, Form.nullable] using
      t.starts_of_append rfl (hkinds.symm.trans s.kinds_upcoming)
  rw [h s hk.symm, bind_congr_left (consume_of_eq hk.symm).symm]
  exact (consume n k).bind hq hab s t j js hn hroom hkinds hj

theorem nonterminal (hp : Accepts n p r.body) : Accepts (n + 1) (nonterminal p) (.rule r) := by
  intro s t k ks hn hroom hkinds hk
  cases t with
  | node t =>
    simp only [Tree.height_node, Descent.room] at hn hroom
    have hopen : t.height ≤ s.opened.room := by
      simp only [Descent.room, Descent.opened]
      omega
    obtain ⟨m, u, hm, hmoved, hup⟩ :=
      hp s.opened t k ks (by omega) hopen hkinds ((r.continues_body k).trans hk)
    exact ⟨m.closed, u, by rw [nonterminal_of_lt (by omega), hm, closing_ok], hmoved.closed, hup⟩

theorem many (hp : Accepts n p a) (hconsume : Consuming p) (ha : (Form.many a).Predictive)
    (hstarts : ∀ k, starts k = a.starts k) : Accepts n (many starts p) (.many a) := by
  intro s t k ks hn hroom hkinds hk
  have hlast := hk
  simp only [Form.continues, Bool.or_eq_false_iff] at hlast
  -- The rounds of the loop are the trees in the repetition.
  generalize hb : Form.many a = b at t
  induction t generalizing s with
  | nil =>
    refine ⟨s, [], many_of_not_starts ?_, .refl s, by simpa using hkinds⟩
    rw [kind_of_upcoming hkinds, hstarts, hlast.1]
  | cons t u _ ih =>
    obtain rfl := Form.many.inj hb
    simp only [Tree.height_cons, Nat.max_le] at hn hroom
    have hstart : a.starts s.kind = true :=
      t.starts_of_append ha.2.1 (((t.word.append_assoc _ _).symm.trans hkinds.symm).trans
        s.kinds_upcoming)
    obtain ⟨j, js, hj, hcont⟩ := u.exists_next k ks ha.2.2 fun _ => hlast.2
    obtain ⟨m, v, hm, hmoved, hup⟩ := hp s t j js hn.1 hroom.1 (by simpa [hj] using hkinds) hcont
    obtain ⟨s', w, hs', hmoved', hup'⟩ :=
      ih m rfl hn.2 (hmoved.room ▸ hroom.2) (hup.trans hj.symm)
    refine ⟨s', v ++ w, ?_, hmoved.trans hmoved', hup'⟩
    rw [many_of_starts hconsume ((hstarts _).trans hstart), bind_of_ok hm, hs']
  | leaf | node | seq | left | right => cases hb

theorem chain {separator : Kind} (hp : Accepts n p a) (hforward : Forward p)
    (ha : (Form.chain separator a).Predictive) :
    Accepts n (chain separator p) (.chain separator a) := by
  rw [chain_eq]
  refine hp.bind (.many ((consume n separator).bind hp ha.2.1.1) ?_ ha.2.1 fun k => ?_) ha
  · exact .bind (.consume _) hforward
  · simp [Form.starts, Form.nullable, eq_comm]

end Accepts

end Parse

namespace Program

open Parse

theorem accepts_termOf {f : Parse Unit} {n : Nat} (hf : Forward f)
    (h : Accepts n f (.rule .factor)) : Accepts (n + 1) (termOf f) (.rule .term) :=
  .nonterminal (.chain h hf (Rule.predictive_body .term))

theorem accepts_exprOf {f : Parse Unit} {n : Nat} (hf : Forward f)
    (h : Accepts n f (.rule .factor)) : Accepts (n + 1) (exprOf f) (.rule .expr) :=
  .nonterminal (.chain ((accepts_termOf hf h).mono (Nat.le_succ n)) (forward_termOf hf)
    (Rule.predictive_body .expr))

theorem accepts_factorOf {f : Parse Unit} {n : Nat} (hf : Forward f)
    (h : Accepts n f (.rule .factor)) : Accepts (n + 1) (factorOf f) (.rule .factor) := by
  have hexpr : Accepts n (exprOf f) (.rule .expr) := (accepts_exprOf hf h).mono (Nat.le_succ n)
  refine .nonterminal (.either ?plus (.either ?minus (.either ?number (.either ?name ?parens))))
  case plus => exact .behind h (by decide) fun s hk => by simp only [kind_bind, hk]
  case minus => exact .behind h (by decide) fun s hk => by simp only [kind_bind, hk]
  case number => exact .token fun s hk => by simp only [kind_bind, hk]
  case name => exact .token fun s hk => by simp only [kind_bind, hk]
  case parens =>
    exact .behind (hexpr.bind (.consume n _) (by decide)) (by decide) fun s hk => by
      simp only [kind_bind, hk]

theorem accepts_factor (n : Nat) : Accepts n factor (.rule .factor) := by
  induction n with
  | zero =>
    -- No tree of a rule is without a node.
    intro s t k ks hn
    cases t
    simp at hn
  | succ n ih =>
    rw [factor_eq]
    exact accepts_factorOf forward_factor ih

theorem accepts_expr (n : Nat) : Accepts n expr (.rule .expr) :=
  (accepts_exprOf forward_factor (accepts_factor n)).mono (Nat.le_succ n)

theorem accepts_simpleStatement (n : Nat) :
    Accepts n simpleStatement (.rule .simpleStatement) := by
  refine .mono (.nonterminal (.either ?assignment ?print)) (Nat.le_succ n)
  case assignment =>
    exact .behind ((Accepts.consume n .assign).bind (accepts_expr n) (by decide)) (by decide)
      fun s hk => by simp only [kind_bind, hk]
  case print =>
    exact .behind ((Accepts.consume n .leftParen).bind
      ((accepts_expr n).bind (.consume n .rightParen) (by decide)) (by decide)) (by decide)
      fun s hk => by simp only [kind_bind, hk]

theorem accepts_statement (n : Nat) : Accepts n statement (.rule .statement) :=
  .mono (.nonterminal ((accepts_simpleStatement n).bind (.consume n .newline) (by decide)))
    (Nat.le_succ n)

/-- A descent succeeds at a program whose tree fits into the room. What stands behind the
end-of-file token does not matter, because that token is not moved past. -/
theorem program_ok {s : Descent} (t : Tree (.rule .program)) (hroom : t.height ≤ s.room)
    (hword : t.word <+: s.upcoming.kinds) : ∃ s', program s = .ok () s' := by
  obtain ⟨ks, hks⟩ := hword
  cases t with
  | node t =>
    cases t with
    | seq t u =>
      cases u with
      | leaf =>
        replace hroom : max t.height 0 + 1 ≤ s.limit - s.depth := hroom
        replace hks : (t.word ++ [.endOfFile]) ++ ks = s.opened.upcoming.kinds := hks
        have hopen : t.height ≤ s.opened.room := by
          simp only [Descent.room, Descent.opened]
          omega
        have hloop : Accepts t.height (many Kind.startsStatement statement)
            (.many (.rule .statement)) :=
          (accepts_statement _).many consuming_statement (by decide) fun _ => rfl
        obtain ⟨m, u, hm, -, hup⟩ := hloop s.opened t .endOfFile ks (Nat.le_refl _) hopen
          (by simpa using hks.symm) rfl
        have hend : m.kind = .endOfFile := kind_of_upcoming hup
        refine ⟨m.closed, ?_⟩
        unfold program
        rw [nonterminal_of_lt (by omega), bind_of_ok hm]
        simp [hend]

end Program

end FrontEnd

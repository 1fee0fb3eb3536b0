-- SUMMARY: What a descent has passed over is a word of the grammar, and where it stops the words it could have read go on.
import FrontEnd.Proofs.Grammar.Predictive
import FrontEnd.Proofs.Program.Unfolding

/-!
# Soundness

`Reads` describes both endings of a part of a descent that should pass over a
word of a form. When it succeeds, the tokens that it moved past are such a word,
and the tree fits into the room. When it fails, they are the beginning of a
word, and the error says truly what was missing behind them (`Justified`). As
for completeness there is one law for each way to put forms together.
-/

namespace FrontEnd

open Grammar

/-- The kinds that an expectation allows. -/
def Expected.admits : Expected → Kind → Bool
  | kind k', k => k = k'
  | statement, k => k.startsStatement
  | factor, k => Rule.factor.starts k

theorem Expected.exists_admits (x : Expected) : ∃ k, x.admits k = true := by
  cases x with
  | kind k => exact ⟨k, decide_eq_true rfl⟩
  | statement => exact ⟨.name, rfl⟩
  | factor => exact ⟨.name, rfl⟩

namespace Parse

variable {p q f : Parse Unit} {a b : Form} {r : Rule} {s s' : Descent} {u : Tokens} {k : Kind}
variable {e : SyntaxError} {o : Outcome} {n : Nat} {starts : Kind → Bool}

/-- The error that a descent stops with at `s'`, with the tokens `u` of a word of `a` behind it:

* an unexpected token is the current one and none of the expected ones, and each of those goes on
  with a word of `a`;
* at the end of the list, the current token goes on with a word of `a` and is the last one, and it
  is not an end-of-file token;
* where nesting is too deep, some kind goes on with a word of `a`. -/
def Justified (a : Form) (u : Tokens) (s' : Descent) : SyntaxError → Prop
  | .unexpectedToken x found =>
    found = s'.cursor.current ∧ x.admits s'.kind = false ∧
      ∀ k, x.admits k = true → a.Viable (u.kinds ++ [k])
  | .unexpectedEnd last =>
    last = some s'.cursor.current ∧ s'.cursor.ahead = [] ∧ s'.kind ≠ .endOfFile ∧
      a.Viable (u.kinds ++ [s'.kind])
  | .nestingTooDeep limit token =>
    limit = s'.limit ∧ token = s'.cursor.current ∧ ∃ k, a.Viable (u.kinds ++ [k])

theorem Justified.map {v : Tokens} (hab : ∀ w, a.Viable w → b.Viable (v.kinds ++ w))
    (h : Justified a u s' e) : Justified b (v ++ u) s' e := by
  have hviable : ∀ k, a.Viable (u.kinds ++ [k]) → b.Viable ((v ++ u).kinds ++ [k]) := by
    intro k hk
    simpa using hab _ hk
  cases e with
  | unexpectedToken x found => exact ⟨h.1, h.2.1, fun k hk => hviable k (h.2.2 k hk)⟩
  | unexpectedEnd last => exact ⟨h.1, h.2.1, h.2.2.1, hviable _ h.2.2.2⟩
  | nestingTooDeep limit token =>
    obtain ⟨hlimit, htoken, k, hk⟩ := h
    exact ⟨hlimit, htoken, k, hviable k hk⟩

theorem Justified.mono (hab : ∀ w, a.Viable w → b.Viable w) (h : Justified a u s' e) :
    Justified b u s' e :=
  h.map (v := []) hab

/-- Justification looks at the cursor and the limit, and closing a level changes neither. -/
theorem Justified.closed (h : Justified a u s' e) : Justified a u s'.closed e := by
  cases e <;> exact h

/-- How a part of a descent from `s` ends that should pass over a word of `a`. -/
def Reads (a : Form) (s : Descent) : Outcome → Prop
  | .ok _ s' =>
    ∃ (u : Tokens) (t : Tree a), s.Moved u s' ∧ u.kinds = t.word ∧ t.height ≤ s.room
  | .error e s' => ∃ u, s.Moved u s' ∧ Justified a u s' e

namespace Reads

theorem consume (s : Descent) (hne : k ≠ .endOfFile) : Reads (.token k) s (consume k s) := by
  by_cases hk : s.kind = k
  · rw [consume_of_eq hk]
    cases hs : s.cursor.ahead with
    | nil =>
      rw [advance_of_nil hs]
      exact ⟨[], .refl s, rfl, hs, hk ▸ hne, hk ▸ .token _⟩
    | cons t ts =>
      obtain ⟨s', hs', hmoved, -⟩ := advance_of_cons hs
      rw [hs']
      exact ⟨_, .leaf k, hmoved, congrArg (· :: []) hk, Nat.zero_le _⟩
  · rw [consume_of_ne hk]
    refine ⟨[], .refl s, rfl, decide_eq_false hk, fun j hj => ?_⟩
    obtain rfl : j = k := of_decide_eq_true hj
    exact .token j

theorem left (h : Reads a s o) : Reads (.either a b) s o := by
  cases o with
  | ok _ s' =>
    obtain ⟨u, t, h⟩ := h
    exact ⟨u, .left t, h⟩
  | error e s' =>
    obtain ⟨u, hmoved, h⟩ := h
    exact ⟨u, hmoved, h.mono fun _ => .left⟩

theorem right (h : Reads b s o) : Reads (.either a b) s o := by
  cases o with
  | ok _ s' =>
    obtain ⟨u, t, h⟩ := h
    exact ⟨u, .right t, h⟩
  | error e s' =>
    obtain ⟨u, hmoved, h⟩ := h
    exact ⟨u, hmoved, h.mono fun _ => .right⟩

theorem bind (hp : Reads a s (p s))
    (hq : ∀ s' u, p s = .ok () s' → s.Moved u s' → Reads b s' (q s')) :
    Reads (.seq a b) s ((do p; q) s) := by
  cases hs : p s with
  | error e m =>
    rw [hs] at hp
    rw [bind_of_error hs]
    obtain ⟨u, hmoved, h⟩ := hp
    exact ⟨u, hmoved, h.mono fun _ => .seq_left⟩
  | ok _ m =>
    rw [hs] at hp
    rw [bind_of_ok hs]
    obtain ⟨u, t, hmoved, hword, hheight⟩ := hp
    have hrest := hq m u hs hmoved
    cases ho : q m with
    | ok _ s' =>
      rw [ho] at hrest
      obtain ⟨v, t', hmoved', hword', hheight'⟩ := hrest
      refine ⟨u ++ v, .seq t t', hmoved.trans hmoved', ?_, ?_⟩
      · simp [hword, hword']
      · exact Nat.max_le.2 ⟨hheight, hmoved.room ▸ hheight'⟩
    | error e s' =>
      rw [ho] at hrest
      obtain ⟨v, hmoved', h⟩ := hrest
      exact ⟨u ++ v, hmoved.trans hmoved', h.map fun w hw => hword ▸ .seq_right t hw⟩

/-- Behind a token, the rest is read with fewer tokens ahead. -/
theorem behind (hk : s.kind = k) (hne : k ≠ .endOfFile)
    (hq : ∀ s' : Descent, s'.cursor.ahead.length < s.cursor.ahead.length → Reads b s' (q s')) :
    Reads (.seq (.token k) b) s ((do advance; q) s) := by
  rw [bind_congr_left (consume_of_eq hk).symm]
  exact (consume s hne).bind fun s' u hs' _ => hq s' (Consuming.consume k s s' hs')

theorem token (hk : s.kind = k) (hne : k ≠ .endOfFile) : Reads (.token k) s (advance s) :=
  consume_of_eq hk ▸ consume s hne

theorem nonterminal (hp : Reads r.body s.opened (p s.opened)) :
    Reads (.rule r) s (nonterminal p s) := by
  by_cases hroom : s.depth < s.limit
  · rw [nonterminal_of_lt hroom]
    cases ho : p s.opened with
    | ok _ m =>
      rw [ho] at hp
      obtain ⟨u, t, hmoved, hword, hheight⟩ := hp
      refine ⟨u, .node t, hmoved.closed, hword, ?_⟩
      simp only [Descent.room, Descent.opened] at hheight ⊢
      simp only [Tree.height_node]
      omega
    | error e m =>
      rw [ho] at hp
      obtain ⟨u, hmoved, h⟩ := hp
      exact ⟨u, hmoved.closed, h.closed.mono fun _ => .rule⟩
  · rw [nonterminal_of_le (Nat.le_of_not_lt hroom)]
    obtain ⟨k, hk⟩ := Form.exists_viable_of_not_nullable (Rule.nullable_body r)
    exact ⟨[], .refl s, rfl, rfl, k, .rule hk⟩

end Reads

/-- `p` reads `a` from every state with fewer than `n` tokens ahead. -/
def ReadsBelow (n : Nat) (p : Parse Unit) (a : Form) : Prop :=
  ∀ s : Descent, s.cursor.ahead.length < n → Reads a s (p s)

namespace ReadsBelow

theorem bind (hp : ReadsBelow n p a) (hq : ReadsBelow n q b) :
    ReadsBelow n (do p; q) (.seq a b) := by
  intro s hs
  refine (hp s hs).bind fun s' u _ hmoved => hq s' ?_
  have := hmoved.length_ahead
  omega

theorem nonterminal (hp : ReadsBelow n p r.body) : ReadsBelow n (nonterminal p) (.rule r) :=
  fun s hs => .nonterminal (hp s.opened hs)

/-- A loop reads a repetition when its rounds do where they begin. -/
theorem many (hconsume : Consuming p)
    (hp : ∀ s : Descent, s.cursor.ahead.length < n → starts s.kind = true → Reads a s (p s)) :
    ReadsBelow n (many starts p) (.many a) := by
  intro s hs
  induction hlength : s.cursor.ahead.length using Nat.strongRecOn generalizing s with
  | ind l ih =>
    cases hk : starts s.kind with
    | false =>
      rw [many_of_not_starts hk]
      exact ⟨[], .nil, .refl s, rfl, Nat.zero_le _⟩
    | true =>
      rw [many_of_starts hconsume hk]
      have hround : Reads (.seq a (.many a)) s ((do p; Parse.many starts p) s) := by
        refine (hp s hs hk).bind fun s' u hs' _ => ?_
        have := hconsume s s' hs'
        exact ih _ (by omega) s' (by omega) rfl
      -- A round and the rest of the repetition are a repetition.
      cases ho : (do p; Parse.many starts p) s with
      | ok _ s' =>
        rw [ho] at hround
        obtain ⟨u, t, hmoved, hword, hheight⟩ := hround
        cases t with
        | seq t ts => exact ⟨u, .cons t ts, hmoved, hword, hheight⟩
      | error e s' =>
        rw [ho] at hround
        obtain ⟨u, hmoved, h⟩ := hround
        refine ⟨u, hmoved, h.mono fun w hw => ?_⟩
        obtain ⟨t, ht⟩ := hw
        cases t with
        | seq t ts => exact ⟨.cons t ts, ht⟩

theorem chain {separator : Kind} (hne : separator ≠ .endOfFile) (hforward : Forward p)
    (hp : ReadsBelow n p a) :
    ReadsBelow n (chain separator p) (.chain separator a) := by
  rw [chain_eq]
  have hitem : ReadsBelow n (do consume separator; p) (.seq (.token separator) a) :=
    bind (fun s _ => .consume s hne) hp
  exact bind hp (many (.bind (.consume _) hforward) fun s hs _ => hitem s hs)

end ReadsBelow

end Parse

namespace Program

open Parse

variable {f : Parse Unit} {n : Nat}

theorem reads_termOf (hf : Forward f) (h : ReadsBelow n f (.rule .factor)) :
    ReadsBelow n (termOf f) (.rule .term) :=
  .nonterminal (.chain (by decide) hf h)

theorem reads_exprOf (hf : Forward f) (h : ReadsBelow n f (.rule .factor)) :
    ReadsBelow n (exprOf f) (.rule .expr) :=
  .nonterminal (.chain (by decide) (forward_termOf hf) (reads_termOf hf h))

theorem reads_factorOf (hf : Forward f) (h : ReadsBelow n f (.rule .factor)) :
    ReadsBelow (n + 1) (factorOf f) (.rule .factor) := by
  refine .nonterminal fun s hs => ?_
  have hless : ∀ {b : Form} {q : Parse Unit}, ReadsBelow n q b → ∀ s' : Descent,
      s'.cursor.ahead.length < s.cursor.ahead.length → Reads b s' (q s') :=
    fun hq s' hs' => hq s' (by omega)
  simp only [kind_bind]
  cases hk : s.kind with
  | plus => exact .left (.behind hk (by decide) (hless h))
  | minus => exact .right (.left (.behind hk (by decide) (hless h)))
  | unsignedInt => exact .right (.right (.left (.token hk (by decide))))
  | name => exact .right (.right (.right (.left (.token hk (by decide)))))
  | leftParen =>
    exact .right (.right (.right (.right (.behind hk (by decide)
      (hless ((reads_exprOf hf h).bind fun m _ => .consume m (by decide)))))))
  | _ => exact ⟨[], .refl s, rfl, by simp [Expected.admits, hk, Rule.starts],
      fun k hk => viable_factor hk⟩

theorem reads_factor (n : Nat) : ReadsBelow n factor (.rule .factor) := by
  induction n with
  | zero => exact fun s hs => absurd hs (Nat.not_lt_zero _)
  | succ n ih =>
    rw [factor_eq]
    exact reads_factorOf forward_factor ih

theorem reads_expr (s : Descent) : Reads (.rule .expr) s (expr s) :=
  reads_exprOf forward_factor (reads_factor _) s (Nat.lt_succ_self _)

theorem reads_simpleStatement (s : Descent) :
    Reads (.rule .simpleStatement) s (simpleStatement s) := by
  refine .nonterminal ?_
  generalize s.opened = s
  simp only [kind_bind]
  cases hk : s.kind with
  | name =>
    exact .left (.behind hk (by decide) fun m _ =>
      (Reads.consume m (by decide)).bind fun m' _ _ _ => reads_expr m')
  | print =>
    exact .right (.behind hk (by decide) fun m _ =>
      (Reads.consume m (by decide)).bind fun m' _ _ _ =>
        (reads_expr m').bind fun m'' _ _ _ => .consume m'' (by decide))
  | _ => exact ⟨[], .refl s, rfl, by simp [Expected.admits, hk, Kind.startsStatement],
      fun k hk => viable_simpleStatement hk⟩

theorem reads_statement (s : Descent) : Reads (.rule .statement) s (statement s) :=
  .nonterminal ((reads_simpleStatement _).bind fun m _ _ _ => .consume m (by decide))

theorem reads_statements (s : Descent) :
    Reads (.many (.rule .statement)) s (many Kind.startsStatement statement s) :=
  ReadsBelow.many consuming_statement (fun m _ _ => reads_statement m) s (Nat.lt_succ_self _)

/-- How a part of a descent from `s` ends that should pass over a word of `a` up to the end-of-file
token, which belongs to the word and is not moved past. -/
def ReadsToEnd (a : Form) (s : Descent) : Outcome → Prop
  | .ok _ s' =>
    ∃ (u : Tokens) (t : Tree a), s.Moved u s' ∧
      u.kinds ++ [s'.kind] = t.word ∧ t.height ≤ s.room
  | .error e s' => ∃ u, s.Moved u s' ∧ Justified a u s' e

theorem reads_statementsToEnd (s : Descent) :
    ReadsToEnd Rule.program.body s (statementsToEnd s) := by
  unfold statementsToEnd
  have hloop := reads_statements s
  cases ho : many Kind.startsStatement statement s with
  | error e m =>
    rw [ho] at hloop
    rw [bind_of_error ho]
    obtain ⟨u, hmoved, h⟩ := hloop
    exact ⟨u, hmoved, h.mono fun w hw => .seq_left hw⟩
  | ok _ m =>
    rw [ho] at hloop
    rw [bind_of_ok ho]
    obtain ⟨u, t, hmoved, hword, hheight⟩ := hloop
    simp only [kind_bind]
    by_cases hend : m.kind = .endOfFile
    · simp only [hend, ne_eq, not_true_eq_false, if_false]
      refine ⟨u, .seq t (.leaf .endOfFile), hmoved, ?_, Nat.max_le.2 ⟨hheight, Nat.zero_le _⟩⟩
      exact congr (congrArg _ hword) (congrArg (· :: []) hend)
    · simp only [ne_eq, hend, not_false_eq_true, if_true]
      refine ⟨u, hmoved, rfl, decide_eq_false hend, fun k hk => ?_⟩
      obtain rfl : k = .endOfFile := of_decide_eq_true hk
      exact hword ▸ .seq_right t (.token _)

theorem reads_program (s : Descent) : ReadsToEnd (.rule .program) s (program s) := by
  rw [program_eq]
  by_cases hroom : s.depth < s.limit
  · rw [nonterminal_of_lt hroom]
    have hbody := reads_statementsToEnd s.opened
    cases ho : statementsToEnd s.opened with
    | error e m =>
      rw [ho] at hbody
      obtain ⟨u, hmoved, h⟩ := hbody
      exact ⟨u, hmoved.closed, h.closed.mono fun w hw => .rule hw⟩
    | ok _ m =>
      rw [ho] at hbody
      obtain ⟨u, t, hmoved, hword, hheight⟩ := hbody
      refine ⟨u, .node t, hmoved.closed, hword, ?_⟩
      simp only [Descent.room, Descent.opened] at hheight ⊢
      rw [Tree.height_node]
      omega
  · rw [nonterminal_of_le (Nat.le_of_not_lt hroom)]
    exact ⟨[], .refl s, rfl, rfl, .endOfFile, .rule (.seq_right .nil (.token _))⟩

end Program

end FrontEnd

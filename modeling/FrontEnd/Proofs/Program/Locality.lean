-- SUMMARY: A descent depends on the kinds of the tokens up to the one it stops at, and on nothing else of its list.
import FrontEnd.Proofs.Program.Unfolding

/-!
# Locality

Take two states at the same depth, and let a part of the grammar run from the
first until it stops at some token. If the second state is followed by tokens of
the same kinds up to that one, and is under the same limit or a higher one, the
run from there ends in the same way at the corresponding token: lexemes,
positions, what was passed before and what stands behind the last token looked
at make no difference.

Two kinds of runs are left out (`Stable`). A run that needs another token at the
end of its list would go on in a longer one, and a run that finds the nesting
too deep would go on under a higher limit.
-/

namespace FrontEnd

/-- The error at another token. -/
def SyntaxError.at : SyntaxError → Token → SyntaxError
  | unexpectedToken x _, t => .unexpectedToken x t
  | unexpectedEnd _, t => .unexpectedEnd (some t)
  | nestingTooDeep limit _, t => .nestingTooDeep limit t

namespace Parse

variable {p q : Parse Unit} {s₁ s₁' s₂ s₂' m₁ : Descent} {v w : Tokens} {n : Nat}
variable {starts : Kind → Bool} {e : SyntaxError}

/-- The outcome at another state. -/
def retold : Outcome → Descent → Outcome
  | .ok _ _, s => .ok () s
  | .error e _, s => .error (e.at s.cursor.current) s

/-- Whether the outcome would be the same in a longer list and under the given limit. -/
def Stable (limit : Nat) : Outcome → Prop
  | .error (.unexpectedEnd _) _ => False
  | .error (.nestingTooDeep l _) _ => l = limit
  | _ => True

@[simp] theorem stable_ok (limit : Nat) (a : Unit) (s : Descent) : Stable limit (.ok a s) :=
  trivial

@[simp] theorem stable_closing (limit : Nat) (o : Outcome) :
    Stable limit (closing o) ↔ Stable limit o := by
  cases o with
  | ok _ s => rfl
  | error e s => cases e <;> rfl

/-- From `s₁` to `s₁'` and from `s₂` to `s₂'` stand tokens of the same kinds, those of both ends
included, and the second limit is not lower. -/
structure Alike (s₁ s₁' s₂ s₂' : Descent) : Prop where
  limit : s₁.limit ≤ s₂.limit
  depth : s₁.depth = s₂.depth
  kinds : ∃ u₁ u₂, s₁.Moved u₁ s₁' ∧ s₂.Moved u₂ s₂' ∧
    Tokens.kinds u₁ ++ [s₁'.kind] = Tokens.kinds u₂ ++ [s₂'.kind]

namespace Alike

theorem kind_eq (h : Alike s₁ s₁' s₂ s₂') : s₁.kind = s₂.kind := by
  obtain ⟨u₁, u₂, h₁, h₂, hkinds⟩ := h.kinds
  have hhead : ∀ {s s' : Descent} {u : Tokens}, s.Moved u s' →
      (Tokens.kinds u ++ [s'.kind]).head? = some s.kind := by
    intro s s' u hmoved
    have := congrArg List.head? hmoved.kinds
    cases u <;> simpa [Descent.kinds_upcoming] using this.symm
  exact Option.some.inj ((hhead h₁).symm.trans ((congrArg List.head? hkinds).trans (hhead h₂)))

/-- A run that stays at its token corresponds to one that does so too. -/
theorem eq_of_stay (h : Alike s₁ s₁ s₂ s₂') : s₂' = s₂ := by
  obtain ⟨u₁, u₂, h₁, h₂, hkinds⟩ := h.kinds
  obtain rfl : u₁ = [] := h₁.right_unique (.refl s₁)
  have hlength := congrArg List.length hkinds
  obtain rfl : u₂ = [] := by simpa using hlength.symm
  exact h₂.left_unique (.refl s₂)

theorem split (h : Alike s₁ s₁' s₂ s₂') (hv : s₁.Moved v m₁) (hw : m₁.Moved w s₁') :
    ∃ m₂, Alike s₁ m₁ s₂ m₂ ∧ Alike m₁ s₁' m₂ s₂' := by
  obtain ⟨u₁, u₂, h₁, h₂, hkinds⟩ := h.kinds
  obtain rfl : u₁ = v ++ w := h₁.right_unique (hv.trans hw)
  -- Cut the second run where the first one is cut.
  obtain ⟨x, y, rfl, hx⟩ : ∃ x y, u₂ = x ++ y ∧ x.length = v.length := by
    refine ⟨u₂.take v.length, u₂.drop v.length, (List.take_append_drop _ _).symm, ?_⟩
    have := congrArg List.length hkinds
    simp only [List.length_append, Tokens.length_kinds, List.length_singleton] at this
    simp only [List.length_take]
    omega
  obtain ⟨m₂, hx₂, hy₂⟩ := h₂.split
  simp only [Tokens.kinds_append, List.append_assoc] at hkinds
  obtain ⟨hvx, hwy⟩ := List.append_inj hkinds (by simp [hx])
  have hrest : Alike m₁ s₁' m₂ s₂' :=
    ⟨by rw [hv.limit, hx₂.limit]; exact h.limit, hv.depth.trans (h.depth.trans hx₂.depth.symm),
      w, y, hw, hy₂, hwy⟩
  exact ⟨m₂, ⟨h.limit, h.depth, v, x, hv, hx₂, by rw [hvx, hrest.kind_eq]⟩, hrest⟩

/-- Levels are opened on both sides at once. -/
theorem opened (h : Alike s₁ m₁.closed s₂ s₂') (hm : s₁.opened.Moved v m₁) :
    Alike s₁.opened m₁ s₂.opened s₂'.opened := by
  obtain ⟨u₁, u₂, h₁, h₂, hkinds⟩ := h.kinds
  obtain rfl : u₁ = v := h₁.right_unique hm.closed
  exact ⟨h.limit, congrArg (· + 1) h.depth, u₁, u₂, hm,
    ⟨h₂.passed, h₂.upcoming, h₂.limit, congrArg (· + 1) h₂.depth⟩, hkinds⟩

end Alike

/-- The run of `p` from `s₁` moves forward, and it depends on the kinds up to the token where it
stops. -/
structure LocalAt (p : Parse Unit) (s₁ : Descent) : Prop where
  moved : ∃ u, s₁.Moved u (final (p s₁))
  eq_retold : ∀ {s₂ s₂'}, Alike s₁ (final (p s₁)) s₂ s₂' → Stable s₂.limit (p s₁) →
    p s₂ = retold (p s₁) s₂'

namespace LocalAt

theorem pure (s₁ : Descent) : LocalAt (pure ()) s₁ where
  moved := Forward.pure s₁
  eq_retold h _ := by
    rw [h.eq_of_stay]
    rfl

theorem fail (x : Expected) (s₁ : Descent) : LocalAt (fail x) s₁ where
  moved := Forward.fail x s₁
  eq_retold h _ := by
    rw [h.eq_of_stay]
    rfl

theorem advance (s₁ : Descent) : LocalAt advance s₁ where
  moved := Forward.advance s₁
  eq_retold {s₂ s₂'} h hstable := by
    cases hs : s₁.cursor.ahead with
    | nil =>
      rw [advance_of_nil hs] at hstable
      exact hstable.elim
    | cons t ts =>
      obtain ⟨m₁, hm₁, hmoved, -⟩ := advance_of_cons hs
      rw [hm₁] at h ⊢
      obtain ⟨u₁, u₂, h₁, h₂, hkinds⟩ := h.kinds
      obtain rfl := h₁.right_unique hmoved
      have hlength : u₂.length = 1 := by simpa using (congrArg List.length hkinds).symm
      obtain ⟨c, rfl⟩ := List.length_eq_one_iff.1 hlength
      obtain ⟨hcurrent, hahead⟩ := List.cons.inj h₂.upcoming
      obtain ⟨m₂, hm₂, hmoved₂, -⟩ := advance_of_cons hahead
      rw [hm₂, h₂.left_unique (hcurrent ▸ hmoved₂)]
      rfl

theorem consume (k : Kind) (s₁ : Descent) : LocalAt (consume k) s₁ where
  moved := Forward.consume k s₁
  eq_retold {s₂ s₂'} h hstable := by
    by_cases hk : s₁.kind = k
    · rw [consume_of_eq hk] at h hstable ⊢
      rw [consume_of_eq (h.kind_eq.symm.trans hk)]
      exact (advance s₁).eq_retold h hstable
    · rw [consume_of_ne hk] at h ⊢
      obtain rfl := h.eq_of_stay
      rw [consume_of_ne (h.kind_eq ▸ hk)]
      rfl

theorem kind_bind {f : Kind → Parse Unit} (h : LocalAt (f s₁.kind) s₁) :
    LocalAt (kind >>= f) s₁ where
  moved := h.moved
  eq_retold {s₂ s₂'} halike hstable := by
    show f s₂.kind s₂ = _
    rw [← halike.kind_eq]
    exact h.eq_retold halike hstable

theorem bind (hp : LocalAt p s₁) (hq : ∀ m₁, p s₁ = .ok () m₁ → LocalAt q m₁) :
    LocalAt (do p; q) s₁ := by
  cases hm : p s₁ with
  | error e m₁ =>
    have hmoved := hp.moved
    rw [hm] at hmoved
    refine ⟨by rwa [bind_of_error hm], fun {s₂ s₂'} h hstable => ?_⟩
    rw [bind_of_error hm] at h hstable ⊢
    have hp₂ : p s₂ = retold (p s₁) s₂' := hp.eq_retold (by rwa [hm]) (by rwa [hm])
    rw [hm] at hp₂
    exact bind_of_error hp₂
  | ok _ m₁ =>
    obtain ⟨v, hv⟩ := hp.moved
    obtain ⟨w, hw⟩ := (hq m₁ hm).moved
    rw [hm] at hv
    refine ⟨⟨v ++ w, by rw [bind_of_ok hm]; exact hv.trans hw⟩, fun {s₂ s₂'} h hstable => ?_⟩
    rw [bind_of_ok hm] at h hstable ⊢
    obtain ⟨m₂, hleft, hright⟩ := h.split hv hw
    have hp₂ : p s₂ = retold (p s₁) m₂ := hp.eq_retold (by rwa [hm]) (by rw [hm]; trivial)
    rw [hm] at hp₂
    rw [bind_of_ok hp₂]
    refine (hq m₁ hm).eq_retold hright ?_
    obtain ⟨_, _, -, hmoved₂, -⟩ := hleft.kinds
    rwa [hmoved₂.limit]

/-- Behind a token, fewer are ahead. -/
theorem behind
    (hq : ∀ m₁ : Descent, m₁.cursor.ahead.length < s₁.cursor.ahead.length → LocalAt q m₁) :
    LocalAt (do Parse.advance; q) s₁ :=
  bind (advance s₁) fun m₁ hm₁ => hq m₁ (Consuming.advance s₁ m₁ hm₁)

theorem nonterminal (hp : LocalAt p s₁.opened) : LocalAt (nonterminal p) s₁ := by
  by_cases hroom : s₁.depth < s₁.limit
  · obtain ⟨v, hv⟩ := hp.moved
    refine ⟨⟨v, by simpa [nonterminal_of_lt hroom] using hv.closed⟩, fun {s₂ s₂'} h hstable => ?_⟩
    rw [nonterminal_of_lt hroom] at h hstable ⊢
    rw [nonterminal_of_lt (by rw [← h.depth]; exact Nat.lt_of_lt_of_le hroom h.limit)]
    have hopened : Alike s₁.opened (final (p s₁.opened)) s₂.opened s₂'.opened :=
      Alike.opened (by simpa using h) hv
    rw [hp.eq_retold hopened ((stable_closing _ _).1 hstable)]
    cases p s₁.opened <;> rfl
  · rw [Nat.not_lt] at hroom
    refine ⟨⟨[], by simpa [nonterminal_of_le hroom] using .refl s₁⟩, fun {s₂ s₂'} h hstable => ?_⟩
    rw [nonterminal_of_le hroom] at h hstable ⊢
    have hlimit : s₁.limit = s₂.limit := hstable
    obtain rfl := h.eq_of_stay
    rw [nonterminal_of_le (by rw [← h.depth, ← hlimit]; exact hroom), ← hlimit]
    rfl

/-- From any state in front of the kinds that the run looked at, there is a run that ends alike. -/
theorem exists_retold {u₁ : Tokens} (hp : LocalAt p s₁) (hlimit : s₁.limit ≤ s₂.limit)
    (hdepth : s₁.depth = s₂.depth) (hmoved : s₁.Moved u₁ (final (p s₁)))
    (hkinds : u₁.kinds ++ [(final (p s₁)).kind] <+: s₂.upcoming.kinds)
    (hstable : Stable s₂.limit (p s₁)) :
    ∃ s₂' u₂, s₂.Moved u₂ s₂' ∧ u₂.length = u₁.length ∧ p s₂ = retold (p s₁) s₂' := by
  obtain ⟨w, hw⟩ := hkinds
  rw [List.append_assoc] at hw
  obtain ⟨u₂, us, hsplit, hu₂, hus⟩ := List.map_eq_append_iff.1 hw.symm
  obtain ⟨t, ts, rfl, ht, -⟩ := List.map_eq_cons_iff.1 hus
  obtain ⟨s₂', hmoved₂, hup⟩ := Descent.Moved.exists_of_append hsplit
  have hkind : s₂'.kind = (final (p s₁)).kind := by
    rw [← ht]
    exact congrArg Token.kind (List.cons.inj hup).1
  refine ⟨s₂', u₂, hmoved₂, ?_, hp.eq_retold ⟨hlimit, hdepth, u₁, u₂, hmoved, hmoved₂, ?_⟩ hstable⟩
  · simpa [Tokens.kinds] using congrArg List.length hu₂
  · rw [hkind, ← hu₂]
    rfl

end LocalAt

/-- Runs of `p` are local from states with fewer than `n` tokens ahead. -/
def LocalBelow (n : Nat) (p : Parse Unit) : Prop :=
  ∀ s₁ : Descent, s₁.cursor.ahead.length < n → LocalAt p s₁

namespace LocalBelow

theorem bind (hp : LocalBelow n p) (hq : LocalBelow n q) : LocalBelow n (do p; q) := by
  intro s₁ hs
  refine .bind (hp s₁ hs) fun m₁ hm₁ => hq m₁ ?_
  obtain ⟨v, hv⟩ := (hp s₁ hs).moved
  rw [hm₁] at hv
  have : s₁.cursor.ahead.length = v.length + m₁.cursor.ahead.length := hv.length_ahead
  omega

theorem nonterminal (hp : LocalBelow n p) : LocalBelow n (nonterminal p) :=
  fun s₁ hs => .nonterminal (hp s₁.opened hs)

theorem many (hconsume : Consuming p) (hp : LocalBelow n p) : LocalBelow n (many starts p) := by
  intro s₁ hs
  induction hlength : s₁.cursor.ahead.length using Nat.strongRecOn generalizing s₁ with
  | ind l ih =>
    cases hk : starts s₁.kind with
    | false =>
      refine ⟨⟨[], by simpa [many_of_not_starts hk] using .refl s₁⟩, fun {s₂ s₂'} h _ => ?_⟩
      rw [many_of_not_starts hk] at h ⊢
      obtain rfl := h.eq_of_stay
      rw [many_of_not_starts (h.kind_eq ▸ hk)]
      rfl
    | true =>
      have hround : LocalAt (do p; Parse.many starts p) s₁ := by
        refine .bind (hp s₁ hs) fun m₁ hm₁ => ?_
        have := hconsume s₁ m₁ hm₁
        exact ih _ (by omega) m₁ (by omega) rfl
      refine ⟨by rw [many_of_starts hconsume hk]; exact hround.moved, fun {s₂ s₂'} h hstable => ?_⟩
      rw [many_of_starts hconsume hk] at h hstable ⊢
      rw [many_of_starts hconsume (h.kind_eq ▸ hk)]
      exact hround.eq_retold h hstable

theorem chain {separator : Kind} (hforward : Forward p) (hp : LocalBelow n p) :
    LocalBelow n (chain separator p) :=
  bind hp (many (.bind .advance hforward) (bind (fun s₁ _ => .advance s₁) hp))

end LocalBelow

end Parse

namespace Program

open Parse

variable {f : Parse Unit} {n : Nat}

theorem local_exprOf (hf : Forward f) (h : LocalBelow n f) : LocalBelow n (exprOf f) :=
  .nonterminal (.chain (forward_termOf hf) (.nonterminal (.chain hf h)))

theorem local_factorOf (hf : Forward f) (h : LocalBelow n f) :
    LocalBelow (n + 1) (factorOf f) := by
  refine .nonterminal fun s₁ hs => .kind_bind ?_
  have hless : ∀ {q : Parse Unit}, LocalBelow n q → ∀ m₁ : Descent,
      m₁.cursor.ahead.length < s₁.cursor.ahead.length → LocalAt q m₁ :=
    fun hq m₁ hm₁ => hq m₁ (by omega)
  split
  · exact .behind (hless h)
  · exact .behind (hless h)
  · exact .advance s₁
  · exact .advance s₁
  · exact .behind (hless (.bind (local_exprOf hf h) fun m _ => .consume _ m))
  · exact .fail _ s₁

theorem local_factor (n : Nat) : LocalBelow n factor := by
  induction n with
  | zero => exact fun s hs => absurd hs (Nat.not_lt_zero _)
  | succ n ih =>
    rw [factor_eq]
    exact local_factorOf forward_factor ih

theorem local_expr (s : Descent) : LocalAt expr s :=
  local_exprOf forward_factor (local_factor _) s (Nat.lt_succ_self _)

theorem local_simpleStatement (s : Descent) : LocalAt simpleStatement s := by
  refine .nonterminal (.kind_bind ?_)
  split
  · exact .behind fun m _ => .bind (.consume _ m) fun m' _ => local_expr m'
  · exact .behind fun m _ => .bind (.consume _ m) fun m' _ =>
      .bind (local_expr m') fun m'' _ => .consume _ m''
  · exact .fail _ _

theorem local_statement (s : Descent) : LocalAt statement s :=
  .nonterminal (.bind (local_simpleStatement _) fun m _ => .consume _ m)

theorem local_statements (s : Descent) : LocalAt (many Kind.startsStatement statement) s :=
  LocalBelow.many consuming_statement (fun m _ => local_statement m) s (Nat.lt_succ_self _)

theorem local_statementsToEnd (s : Descent) : LocalAt statementsToEnd s := by
  refine .bind (local_statements _) fun m _ => .kind_bind ?_
  split
  · exact .fail _ m
  · exact .pure m

theorem local_program (s : Descent) : LocalAt program s :=
  .nonterminal (local_statementsToEnd _)

end Program

end FrontEnd

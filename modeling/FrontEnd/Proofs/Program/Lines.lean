-- SUMMARY: A line of tokens is accepted or rejected by itself, whatever follows its newline.
import FrontEnd.Proofs.Program.Expectations
import FrontEnd.Proofs.Program.Locality
import FrontEnd.Proofs.Source.Relocation

/-!
# Checking by lines

A statement has one newline, its last token. So a descent into a list that
begins with a line either stops inside that line or has passed over all of it
and stands in front of the rest, at the depth where it began. In the second case
it goes on as it would in the rest alone, for it depends on nothing that it has
left behind.
-/

namespace FrontEnd

open Grammar

-- ---------------------------------------------------------------------------
-- Newlines in statements
-- ---------------------------------------------------------------------------

namespace Grammar

/-- Whether the words of the rule are parts of one line. -/
def Rule.inLine : Rule → Bool
  | program | statement => false
  | _ => true

def Form.inLine : Form → Bool
  | token k => k ≠ .newline
  | rule r => r.inLine
  | seq a b => a.inLine && b.inLine
  | either a b => a.inLine && b.inLine
  | many a => a.inLine

theorem Rule.inLine_body (r : Rule) (h : r.inLine = true) : r.body.inLine = true := by
  cases r with
  | program | statement => cases h
  | simpleStatement | expr | term | factor => rfl

namespace Tree

theorem newline_not_mem_word {a : Form} (t : Tree a) (h : a.inLine = true) :
    Kind.newline ∉ t.word := by
  induction t with
  | leaf k =>
    have hk : k ≠ .newline := of_decide_eq_true h
    simpa using hk.symm
  | @node r t ih => exact ih (r.inLine_body h)
  | seq t u iht ihu =>
    obtain ⟨ha, hb⟩ := Bool.and_eq_true_iff.1 h
    simpa using ⟨iht ha, ihu hb⟩
  | left t ih => exact ih (Bool.and_eq_true_iff.1 h).1
  | right t ih => exact ih (Bool.and_eq_true_iff.1 h).2
  | nil => simp
  | cons t u iht ihu => simpa using ⟨iht h, ihu h⟩

theorem statement_word (t : Tree (.rule .statement)) :
    ∃ w, t.word = w ++ [.newline] ∧ Kind.newline ∉ w := by
  cases t with
  | node t =>
    cases t with
    | seq t u =>
      cases u with
      | leaf => exact ⟨t.word, rfl, t.newline_not_mem_word rfl⟩

end Tree

/-- Lists that have their first newline in the same place have it behind the same kinds. -/
theorem append_newline_inj {v w x y : List Kind} (hv : Kind.newline ∉ v) (hw : Kind.newline ∉ w)
    (h : v ++ .newline :: x = w ++ .newline :: y) : v = w ∧ x = y := by
  have htake : ∀ {v x : List Kind}, Kind.newline ∉ v →
      (v ++ .newline :: x).takeWhile (· ≠ .newline) = v := by
    intro v x hv
    have hne : ∀ k ∈ v, decide (k ≠ .newline) = true := fun k hk =>
      decide_eq_true fun heq => hv (heq ▸ hk)
    rw [List.takeWhile_append_of_pos hne]
    simp
  obtain rfl : v = w := by rw [← htake hv (x := x), h, htake hw]
  exact ⟨rfl, (List.cons.inj (List.append_cancel_left h)).2⟩

/-- Nothing of a statement stands behind its newline. -/
theorem Form.Viable.eq_nil_of_newline {w x : List Kind} (hw : Kind.newline ∉ w)
    (h : (Form.rule .statement).Viable (w ++ .newline :: x)) : x = [] := by
  obtain ⟨t, y, hy⟩ := h
  obtain ⟨v, hword, hv⟩ := t.statement_word
  rw [hword, List.append_assoc, List.cons_append] at hy
  exact List.append_eq_nil_iff.1 (append_newline_inj hw hv hy).2 |>.1

end Grammar

/-- Tokens up to an end-of-file token. -/
def Tokens.Ended (ts : Tokens) : Prop :=
  ∃ t, ts.getLast? = some t ∧ t.kind = .endOfFile

theorem Tokens.Ended.relocate (f : Position → Position) {ts : Tokens} (h : ts.Ended) :
    (ts.relocate f).Ended := by
  obtain ⟨t, hlast, hkind⟩ := h
  exact ⟨t.relocate f, by simp [Tokens.relocate, hlast], hkind⟩

/-- The tokens of a line, with the newline that ends it. -/
structure Tokens.Line (ts : Tokens) (newline : Token) : Prop where
  kinds : ∀ t ∈ ts, t.kind ≠ .newline ∧ t.kind ≠ .endOfFile
  newline : newline.kind = .newline

theorem Tokens.Line.not_mem {ts : Tokens} {newline : Token} (h : Tokens.Line ts newline) :
    Kind.newline ∉ ts.kinds := by
  intro hmem
  obtain ⟨t, ht, hkind⟩ := List.mem_map.1 hmem
  exact (h.kinds t ht).1 hkind

/-- What a statement can begin with and go on does not reach behind the newline of a line. -/
theorem Tokens.Line.length_le_of_viable {ts us v : Tokens} {newline : Token} {k : Kind}
    (hline : Tokens.Line ts newline) (hviable : (Form.rule .statement).Viable (v.kinds ++ [k]))
    (hbegins : v <+: ts ++ newline :: us) : v.length ≤ ts.length := by
  refine Nat.le_of_not_lt fun hlong => ?_
  obtain ⟨x, rfl⟩ : ts ++ [newline] <+: v :=
    List.prefix_of_prefix_length_le ⟨us, by simp⟩ hbegins (by
      rw [List.length_append]
      exact hlong)
  rw [Tokens.kinds_append, Tokens.kinds_append, Tokens.kinds_cons, hline.newline] at hviable
  simp only [List.append_assoc, Tokens.kinds_nil, List.cons_append, List.nil_append] at hviable
  exact absurd (hviable.eq_nil_of_newline hline.not_mem) (by simp)

namespace Parse

variable {s s' : Descent} {u : Tokens} {a : Form} {e : SyntaxError}

/-- A descent that stops with an error stops at the token that the error is about. -/
theorem Justified.at_current (h : Justified a u s' e) : e.at s'.cursor.current = e := by
  cases e with
  | unexpectedToken x found => rw [SyntaxError.at, h.1]
  | unexpectedEnd last => rw [SyntaxError.at, h.1]
  | nestingTooDeep limit token => rw [SyntaxError.at, h.2.1]

/-- An error that stops a descent in front of the end stops it there with more ahead, too. -/
theorem Justified.stable (h : Justified a u s' e) (hmoved : s.Moved u s')
    (hend : ∀ last, e ≠ .unexpectedEnd last) : Stable s.limit (.error e s') := by
  cases e with
  | unexpectedToken x found => trivial
  | nestingTooDeep l token => exact h.1.trans hmoved.limit
  | unexpectedEnd last => exact absurd rfl (hend last)

theorem Justified.exists_viable (h : Justified a u s' e) : ∃ k, a.Viable (u.kinds ++ [k]) := by
  cases e with
  | unexpectedToken x found =>
    obtain ⟨k, hk⟩ := x.exists_admits
    exact ⟨k, h.2.2 k hk⟩
  | unexpectedEnd last => exact ⟨_, h.2.2.2⟩
  | nestingTooDeep limit token => exact h.2.2

end Parse

namespace Program

open Parse

variable {s s' s₁ s₂ : Descent} {ts us u : Tokens} {newline c : Token} {e : SyntaxError}
variable {limit : Nat}

/-- Where the current token and those ahead are a line and more, a statement either takes the whole
line or stops at a token of it. -/
theorem statement_of_line (hline : Tokens.Line ts newline) (hus : us ≠ [])
    (hup : s.upcoming = ts ++ newline :: us) :
    (∃ s', statement s = .ok () s' ∧ s.Moved (ts ++ [newline]) s') ∨
    ∃ e s' u, statement s = .error e s' ∧ s.Moved u s' ∧ u.length ≤ ts.length ∧
      e.at s'.cursor.current = e ∧ Stable s.limit (.error e s') := by
  have hreads := reads_statement s
  cases ho : statement s with
  | ok _ s' =>
    rw [ho] at hreads
    obtain ⟨u, t, hmoved, hword, -⟩ := hreads
    obtain ⟨w, hw, hnot⟩ := t.statement_word
    have hkinds : w ++ .newline :: s'.upcoming.kinds = ts.kinds ++ .newline :: us.kinds := by
      have := hmoved.kinds
      rw [hup, hword, hw, Tokens.kinds_append, Tokens.kinds_cons, hline.newline] at this
      simpa using this.symm
    obtain ⟨rfl, hrest⟩ := append_newline_inj hnot hline.not_mem hkinds
    have hu : u = ts ++ [newline] := by
      have hsplit : u ++ s'.upcoming = (ts ++ [newline]) ++ us := by
        rw [← hmoved.upcoming, hup, List.append_assoc]
        rfl
      exact (List.append_inj hsplit (by simpa using congrArg List.length (hword.trans hw))).1
    exact .inl ⟨s', rfl, hu ▸ hmoved⟩
  | error e s' =>
    rw [ho] at hreads
    obtain ⟨u, hmoved, hjust⟩ := hreads
    obtain ⟨k, hk⟩ := hjust.exists_viable
    have hbegins : u <+: ts ++ newline :: us := ⟨_, (hup ▸ hmoved.upcoming).symm⟩
    refine .inr ⟨e, s', u, rfl, hmoved, hline.length_le_of_viable hk hbegins, hjust.at_current,
      hjust.stable hmoved ?_⟩
    rintro last rfl
    -- Then the statement would have begun with all of the tokens.
    obtain ⟨-, hahead, -, hviable⟩ := hjust
    have hkinds : u.kinds ++ [s'.kind] = ts.kinds ++ .newline :: us.kinds := by
      have := hmoved.kinds
      rw [hup, Descent.upcoming, hahead, Tokens.kinds_append, Tokens.kinds_cons,
        hline.newline] at this
      exact this.symm
    rw [hkinds] at hviable
    exact hus (List.map_eq_nil_iff.1 (hviable.eq_nil_of_newline hline.not_mem))

/-- A statement that stops at a token of a line stops there whatever follows the line. -/
theorem statement_error_congr {us' : Tokens} (hup₁ : s₁.upcoming = ts ++ newline :: us)
    (hup₂ : s₂.upcoming = ts ++ newline :: us') (hlimit : s₁.limit = s₂.limit)
    (hdepth : s₁.depth = s₂.depth) (ho : statement s₁ = .error e s') (hmoved : s₁.Moved u s')
    (hle : u.length ≤ ts.length) (hat : e.at s'.cursor.current = e)
    (hstable : Stable s₁.limit (.error e s')) :
    s'.cursor.current ∈ ts ++ [newline] ∧ ∃ m, statement s₂ = .error e m := by
  obtain ⟨x, hx⟩ : u ++ [s'.cursor.current] <+: ts ++ [newline] := by
    have hseen : u ++ [s'.cursor.current] <+: s₁.upcoming := by
      rw [hmoved.upcoming]
      exact ⟨s'.cursor.ahead, List.append_assoc _ _ _⟩
    have hline : ts ++ [newline] <+: s₁.upcoming := by
      rw [hup₁]
      exact ⟨us, List.append_assoc _ _ _⟩
    refine List.prefix_of_prefix_length_le hseen hline ?_
    simp only [List.length_append, List.length_singleton]
    omega
  have hup : s₂.upcoming = u ++ s'.cursor.current :: (x ++ us') := by
    rw [hup₂, ← List.singleton_append (l := us'), ← List.append_assoc, ← hx]
    simp
  have hkinds : u.kinds ++ [s'.kind] <+: s₂.upcoming.kinds := by
    rw [hup]
    exact ⟨Tokens.kinds (x ++ us'), by simp [Descent.kind]⟩
  have hmoved₁ : s₁.Moved u (final (statement s₁)) := by rwa [ho]
  obtain ⟨m, v, hmoved', hlength, hm⟩ := (local_statement s₁).exists_retold
    (Nat.le_of_eq hlimit : s₁.limit ≤ s₂.limit) hdepth hmoved₁ (by rwa [ho]) (by rwa [ho, ← hlimit])
  have hcurrent : m.cursor.current = s'.cursor.current :=
    (List.cons.inj (List.append_inj (hmoved'.upcoming.symm.trans hup) hlength).2).1
  refine ⟨hx ▸ by simp, m, ?_⟩
  rw [hm, ho]
  show EStateM.Result.error (e.at m.cursor.current) m = _
  rw [hcurrent, hat]

-- ---------------------------------------------------------------------------
-- The rest
-- ---------------------------------------------------------------------------

/-- Where the tokens end with an end-of-file token, no more of them are asked for. -/
theorem statementsToEnd_ne_unexpectedEnd (hended : s.upcoming.Ended) (last : Option Token)
    (s' : Descent) : statementsToEnd s ≠ .error (.unexpectedEnd last) s' := by
  intro h
  have hreads := reads_statementsToEnd s
  rw [h] at hreads
  obtain ⟨u, hmoved, -, hahead, hne, -⟩ := hreads
  obtain ⟨t, hlast, hkind⟩ := hended
  rw [hmoved.upcoming, Descent.upcoming, hahead, List.getLast?_concat] at hlast
  obtain rfl := Option.some.inj hlast
  exact hne hkind

/-- Nor does the check of such a list ask for more. -/
theorem check_ne_unexpectedEnd (hlimit : 0 < limit) (hended : ts.Ended) (last : Option Token) :
    check limit ts ≠ .error (.unexpectedEnd last) := by
  intro h
  cases ts with
  | nil => cases hended.choose_spec.1
  | cons c cs =>
    obtain ⟨s', hs'⟩ := statementsToEnd_of_check_error hlimit h
    exact statementsToEnd_ne_unexpectedEnd (s := (start limit c cs).opened) hended last s' hs'

/-- Where the tokens end with an end-of-file token, their kinds and order are all that counts:
elsewhere in a text and behind whatever was passed, the answer is the same at other positions. -/
theorem verdict_relocate (f : Position → Position) (hlimit : s₁.limit = s₂.limit)
    (hdepth : s₁.depth = s₂.depth) (hup : s₂.upcoming = s₁.upcoming.relocate f)
    (hended : s₁.upcoming.Ended) :
    verdict (statementsToEnd s₂) =
      (verdict (statementsToEnd s₁)).mapError (SyntaxError.relocate f) := by
  have hlocal := local_statementsToEnd s₁
  have hreads := reads_statementsToEnd s₁
  obtain ⟨u₁, hmoved⟩ := hlocal.moved
  have hstable : Stable s₂.limit (statementsToEnd s₁) := by
    cases ho : statementsToEnd s₁ with
    | ok _ s' => trivial
    | error e s' =>
      rw [ho] at hreads
      obtain ⟨u, hmoved', hjust⟩ := hreads
      refine hlimit ▸ hjust.stable hmoved' ?_
      rintro last rfl
      exact statementsToEnd_ne_unexpectedEnd hended last s' ho
  have hkinds : u₁.kinds ++ [(final (statementsToEnd s₁)).kind] <+: s₂.upcoming.kinds := by
    rw [hup, Tokens.kinds_relocate, hmoved.kinds, Descent.kinds_upcoming]
    exact ⟨Tokens.kinds (final (statementsToEnd s₁)).cursor.ahead, by simp⟩
  obtain ⟨s₂', u₂, hmoved₂, hlength, ho₂⟩ :=
    hlocal.exists_retold (hlimit ▸ Nat.le_refl _) hdepth hmoved hkinds hstable
  rw [ho₂]
  cases ho : statementsToEnd s₁ with
  | ok _ s' => rfl
  | error e s' =>
    rw [ho] at hreads hmoved
    obtain ⟨u, -, hjust⟩ := hreads
    -- Both runs stop at the same token of the list.
    have hup' : u₂ ++ s₂'.upcoming = u₁.relocate f ++ s'.upcoming.relocate f := by
      rw [← hmoved₂.upcoming, hup, hmoved.upcoming, Tokens.relocate_append]
      rfl
    have hrest := (List.append_inj hup' (by simpa [Tokens.relocate] using hlength)).2
    have hcurrent : s₂'.cursor.current = s'.cursor.current.relocate f := (List.cons.inj hrest).1
    show Except.error (e.at s₂'.cursor.current) = .error (e.relocate f)
    rw [hcurrent, ← SyntaxError.relocate_at, hjust.at_current]

/-- Inside the level of a program, the rest of a list is checked as a list of its own. -/
theorem verdict_rest (hpos : 0 < limit) (hlimit : s.limit = limit) (hdepth : s.depth = 1)
    (hup : s.upcoming = us) (hended : us.Ended) :
    verdict (statementsToEnd s) = check limit us := by
  obtain ⟨d, ds, rfl⟩ : ∃ d ds, us = d :: ds := ⟨_, _, hup.symm⟩
  have hlimit' : (start limit d ds).opened.limit = s.limit := hlimit.symm
  have hup' : s.upcoming = (start limit d ds).opened.upcoming.relocate id := by
    rw [hup, upcoming_opened_start, Tokens.relocate_id]
  rw [check_of_pos hpos, verdict_relocate id hlimit' hdepth.symm hup' hended]
  cases verdict (statementsToEnd (start limit d ds).opened) with
  | ok _ => rfl
  | error e => exact congrArg Except.error e.relocate_id

/-- The answer for tokens at other positions is the same at the positions of those tokens. -/
theorem check_relocate (f : Position → Position) (limit : Nat) (hended : ts.Ended) :
    check limit (ts.relocate f) = (check limit ts).mapError (SyntaxError.relocate f) := by
  cases ts with
  | nil => rfl
  | cons c cs =>
    cases limit with
    | zero => rfl
    | succ limit =>
      rw [check_of_pos (Nat.succ_pos _), Tokens.relocate, List.map_cons,
        check_of_pos (Nat.succ_pos _)]
      exact verdict_relocate f rfl rfl rfl hended

/-- Under a limit that lets a program begin, a line either is rejected at one of its tokens,
whatever follows, or makes no difference to what follows. The end of the text can be expected in
place of its first token only: behind that token there is a statement, and behind a statement the
rest. -/
theorem check_line (hlimit : 0 < limit) (hline : Tokens.Line ts newline) :
    (∃ e, ∃ t ∈ ts ++ [newline], e.at t = e ∧
      (∀ found, e = .unexpectedToken (.kind .endOfFile) found →
        (ts ++ [newline]).head? = some found) ∧
      ∀ us : Tokens, us.Ended → check limit (ts ++ [newline] ++ us) = .error e) ∨
    ∀ us : Tokens, us.Ended → check limit (ts ++ [newline] ++ us) = check limit us := by
  obtain ⟨c, cs, hcs⟩ := List.exists_cons_of_ne_nil (l := ts ++ [newline]) (by simp)
  have hc : c ∈ ts ++ [newline] := hcs ▸ .head _
  let s (us : Tokens) := (start limit c (cs ++ us)).opened
  have hcheck : ∀ us, check limit (ts ++ [newline] ++ us) = verdict (statementsToEnd (s us)) := by
    intro us
    rw [hcs]
    exact check_of_pos hlimit c (cs ++ us)
  have hup : ∀ us, (s us).upcoming = ts ++ newline :: us := fun us => by
    show (c :: cs) ++ us = _
    rw [← hcs, List.append_assoc]
    rfl
  cases hstarts : c.kind.startsStatement with
  | false =>
    have hend : c.kind ≠ .endOfFile := by
      obtain h | h := List.mem_append.1 hc
      · exact (hline.kinds c h).2
      · rw [List.mem_singleton.1 h, hline.newline]
        decide
    refine .inl ⟨.unexpectedToken (.kind .endOfFile) c, c, hc, rfl, ?_, fun us _ => ?_⟩
    · rintro found ⟨⟩
      rw [hcs]
      rfl
    · rw [hcheck, statementsToEnd_of_not_starts (s := s us) hstarts hend]
      rfl
  | true =>
    have hne : ∀ {us : Tokens}, us.Ended → us ≠ [] := by
      rintro _ ⟨t, hlast, -⟩ rfl
      cases hlast
    have hended : Tokens.Ended [.endOfFile {}] := ⟨_, rfl, rfl⟩
    obtain ⟨s', hs', -⟩ | ⟨e, s', u, hs', hmoved, hle, hat, hstable⟩ :=
      statement_of_line hline (hne hended) (hup _)
    · -- A statement that is not stopped here is not stopped elsewhere.
      refine .inr fun us hus => ?_
      obtain ⟨m, hm, hmoved⟩ | ⟨e, m, u, hm, hmoved, hle, hat, hstable⟩ :=
        statement_of_line hline (hne hus) (hup us)
      · have hrest : m.upcoming = us := by
          have := hmoved.upcoming
          rw [hup, List.append_assoc] at this
          exact (List.cons.inj (List.append_cancel_left this)).2.symm
        rw [hcheck, statementsToEnd_of_ok (s := s _) hstarts hm,
          verdict_rest hlimit hmoved.limit hmoved.depth hrest hus]
      · obtain ⟨-, m', hm'⟩ := statement_error_congr (hup us) (hup [.endOfFile {}]) rfl rfl hm
          hmoved hle hat hstable
        rw [hs'] at hm'
        cases hm'
    · refine .inl ⟨e, s'.cursor.current, ?_, hat, ?_, fun us _ => ?_⟩
      · exact (statement_error_congr (hup [.endOfFile {}]) (hup []) rfl rfl hs' hmoved hle hat
          hstable).1
      · rintro found rfl
        have hinside := inside_statement (s := s [.endOfFile {}]) hstarts
        rw [hs'] at hinside
        cases hinside
      · obtain ⟨-, m, hm⟩ := statement_error_congr (hup [.endOfFile {}]) (hup us) rfl rfl hs' hmoved
          hle hat hstable
        rw [hcheck, statementsToEnd_of_error (s := s us) hstarts hm]
        rfl

end Program

end FrontEnd

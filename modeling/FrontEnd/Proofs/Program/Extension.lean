-- SUMMARY: What stands behind the token that a check stops at makes no difference, and only a list without an end-of-file token is too short.
import FrontEnd.Proofs.Program.Limits
import FrontEnd.Proofs.Program.Lines

/-!
# Longer lists

A descent decides by the current token, so a check has looked at the tokens up to
the one it stops at and at no other. Whether more tokens follow shows in one case
only, when a check has to move past the last token of its list. No rule moves past
an end-of-file token, so this does not happen to a list that has one.
-/

namespace FrontEnd

open Grammar

namespace Parse

variable {p : Parse Unit} {s₁ s₂ : Descent} {u : Tokens}

/-- A run from a state in front of the same tokens ends with the same answer, whatever stands behind
the token that the run stops at. -/
theorem LocalAt.verdict_eq (hp : LocalAt p s₁) (hlimit : s₁.limit = s₂.limit)
    (hdepth : s₁.depth = s₂.depth) (hmoved : s₁.Moved u (final (p s₁)))
    (hup : u ++ [(final (p s₁)).cursor.current] <+: s₂.upcoming) (hstable : Stable s₁.limit (p s₁))
    (hat : ∀ e s', p s₁ = .error e s' → e.at s'.cursor.current = e) :
    verdict (p s₂) = verdict (p s₁) := by
  obtain ⟨rest, hrest⟩ := hup
  have hkinds : u.kinds ++ [(final (p s₁)).kind] <+: s₂.upcoming.kinds := by
    rw [← hrest, Tokens.kinds_append, Tokens.kinds_append]
    exact List.prefix_append _ _
  obtain ⟨s₂', u₂, hmoved₂, hlength, ho⟩ :=
    hp.exists_retold (Nat.le_of_eq hlimit) hdepth hmoved hkinds (hlimit ▸ hstable)
  have hcurrent : s₂'.cursor.current = (final (p s₁)).cursor.current := by
    have hsplit := hmoved₂.upcoming.symm.trans hrest.symm
    rw [List.append_assoc] at hsplit
    exact (List.cons.inj (List.append_inj hsplit hlength).2).1
  rw [ho]
  cases hs : p s₁ with
  | ok _ s' => rfl
  | error e s' =>
    rw [hs] at hcurrent
    show Except.error (e.at s₂'.cursor.current) = .error e
    rw [hcurrent, final_error, hat e s' hs]

end Parse

namespace Program

open Parse

variable {limit : Nat} {ts : Tokens} {t : Token} {a : Form} {s s' : Descent} {o : Outcome}
variable {e : SyntaxError}

theorem ReadsToEnd.stable (h : ReadsToEnd a s o)
    (hend : ∀ last, verdict o ≠ .error (.unexpectedEnd last)) : Stable s.limit o := by
  cases o with
  | ok _ s' => trivial
  | error e s' =>
    obtain ⟨u, hmoved, hjust⟩ := h
    exact hjust.stable hmoved fun last heq => hend last (congrArg Except.error heq)

theorem ReadsToEnd.at_current (h : ReadsToEnd a s (.error e s')) : e.at s'.cursor.current = e := by
  obtain ⟨u, -, hjust⟩ := h
  exact hjust.at_current

/-- The tokens up to the one that a check stops at decide how it ends. -/
theorem check_take_stop_append (rest : Tokens)
    (hend : ∀ last, check limit ts ≠ .error (.unexpectedEnd last)) :
    check limit (ts.take (stop limit ts + 1) ++ rest) = check limit ts := by
  cases ts with
  | nil => exact absurd rfl (hend none)
  | cons c cs =>
    have hreads := reads_program (start limit c cs)
    have hlocal := local_program (start limit c cs)
    obtain ⟨u, hmoved⟩ := hlocal.moved
    -- What was looked at are the tokens that were passed and the current one.
    have hseen : (c :: cs).take (stop limit (c :: cs) + 1) =
        u ++ [(final (program (start limit c cs))).cursor.current] := by
      have hstop : stop limit (c :: cs) = 0 + u.length := hmoved.index
      have hup : c :: cs = u ++ Descent.upcoming _ := hmoved.upcoming
      rw [hstop, hup, Nat.zero_add, List.take_length_add_append]
      rfl
    obtain ⟨d, ds, hds⟩ := List.exists_cons_of_ne_nil
      (List.append_ne_nil_of_right_ne_nil u (List.cons_ne_nil _ []))
    have hup : u ++ [_] <+: (start limit d (ds ++ rest)).upcoming :=
      ⟨rest, by rw [hds]; rfl⟩
    rw [check_cons] at hend
    rw [hseen, hds, List.cons_append, check_cons, check_cons]
    exact hlocal.verdict_eq rfl rfl hmoved hup (hreads.stable hend) fun e s' hs =>
      ReadsToEnd.at_current (hs ▸ hreads)

/-- A check that does not ask for more tokens makes no difference between a list and a longer
one. -/
theorem check_append_of_ne_unexpectedEnd (rest : Tokens)
    (hend : ∀ last, check limit ts ≠ .error (.unexpectedEnd last)) :
    check limit (ts ++ rest) = check limit ts := by
  have hrest := check_take_stop_append (ts.drop (stop limit ts + 1) ++ rest) hend
  rwa [← List.append_assoc, List.take_append_drop] at hrest

/-- A list with an end-of-file token in it is not too short. -/
theorem check_ne_unexpectedEnd_of_mem (ht : t ∈ ts) (hkind : t.kind = .endOfFile)
    (last : Option Token) : check limit ts ≠ .error (.unexpectedEnd last) := by
  obtain ⟨front, back, rfl⟩ := List.append_of_mem ht
  have hfront : ∀ last, check limit (front ++ [t]) ≠ .error (.unexpectedEnd last) := by
    intro last
    cases limit with
    | zero => cases front <;> exact nofun
    | succ limit =>
      exact check_ne_unexpectedEnd (Nat.succ_pos _) ⟨t, List.getLast?_concat, hkind⟩ last
  rw [List.append_cons, check_append_of_ne_unexpectedEnd back hfront]
  exact hfront last

/-- A check looks at nothing behind the token that it stops at:

* unless it ends because the list is too short, it ends in the same way for every longer list, and
  for every list that has the same tokens up to that one;
* a list that is too short has no end-of-file token in it. It stays too short under a higher limit,
  and behind it an end-of-file token, with whatever other tokens, makes it long enough. -/
theorem check_looks_no_further (limit : Nat) (ts rest : Tokens) :
    ((∀ last, check limit ts ≠ .error (.unexpectedEnd last)) →
      check limit (ts ++ rest) = check limit ts ∧
      check limit (ts.take (stop limit ts + 1) ++ rest) = check limit ts) ∧
    ∀ last, check limit ts = .error (.unexpectedEnd last) →
      (∀ t ∈ ts, t.kind ≠ .endOfFile) ∧
      (∀ limit' ≥ limit, check limit' ts = .error (.unexpectedEnd last)) ∧
      ((∃ t ∈ rest, t.kind = .endOfFile) →
        ∀ last', check limit (ts ++ rest) ≠ .error (.unexpectedEnd last')) := by
  constructor
  · intro hend
    exact ⟨check_append_of_ne_unexpectedEnd rest hend, check_take_stop_append rest hend⟩
  · intro last hshort
    refine ⟨fun t ht hkind => ?_, fun limit' hlimit => ?_, fun ⟨t, ht, hkind⟩ => ?_⟩
    · exact check_ne_unexpectedEnd_of_mem ht hkind last hshort
    · rw [check_of_le hlimit (by rw [hshort]; exact nofun), hshort]
    · exact check_ne_unexpectedEnd_of_mem (List.mem_append_right ts ht) hkind

/-- The list `NAME = NEWLINE` is rejected at its newline, with a program behind it or without. The
list `NAME =` is too short, and with that newline it is not. -/
theorem check_looks_no_further_name_assign :
    check 9 (.ofKinds [.name, .assign, .newline]) =
        .error (.unexpectedToken .factor ⟨.newline, "", {}⟩) ∧
      check 9 (.ofKinds [.name, .assign, .newline] ++ .ofKinds [.endOfFile]) =
        check 9 (.ofKinds [.name, .assign, .newline]) ∧
      check 9 (.ofKinds [.name, .assign]) = .error (.unexpectedEnd (some ⟨.assign, "", {}⟩)) ∧
      ∀ last, check 9 (.ofKinds [.name, .assign] ++ .ofKinds [.newline, .endOfFile]) ≠
        .error (.unexpectedEnd last) := by
  have hrejected : check 9 (.ofKinds [.name, .assign, .newline]) =
      .error (.unexpectedToken .factor ⟨.newline, "", {}⟩) := rfl
  have hshort : check 9 (.ofKinds [.name, .assign]) =
      .error (.unexpectedEnd (some ⟨.assign, "", {}⟩)) := rfl
  have hlonger := (check_looks_no_further 9 (.ofKinds [.name, .assign, .newline])
    (.ofKinds [.endOfFile])).1 (by rw [hrejected]; exact nofun)
  obtain ⟨-, -, hlong⟩ := (check_looks_no_further 9 (.ofKinds [.name, .assign])
    (.ofKinds [.newline, .endOfFile])).2 _ hshort
  exact ⟨hrejected, hlonger.1, hshort, hlong ⟨_, .tail _ (.head _), rfl⟩⟩

end Program

end FrontEnd

-- SUMMARY: A rule run one step at a time: the stages of its run, what comes of them, and what they all keep.
import FrontEnd.Proofs.Program.Routine
import Mathlib.Logic.Relation

/-!
# Steps

A rule can be run without its function, one step at a time. What is still to be
done is a list of tasks: a call opens a level and puts the routine of its rule on
the list, with a task behind it that closes the level. After an error the tasks
are dropped one by one, and only the levels are closed.

The stages of a run are what the function of the rule passes through. No step
changes what comes of the tasks (`Next.ending`), and no stage leaves the list, the
limit or the open levels of the first one (`Within`).
-/

namespace FrontEnd

open Grammar

namespace Descent

/-- `t` is a state of the same descent as `s`, at its token or behind it. -/
structure Onward (s t : Descent) : Prop where
  tokens : t.cursor.tokens = s.cursor.tokens
  limit : t.limit = s.limit
  index_le : s.cursor.index ≤ t.cursor.index
  index_lt : t.cursor.index < s.cursor.tokens.length

namespace Onward

variable {s t v : Descent}

theorem trans (h : s.Onward t) (h' : t.Onward v) : s.Onward v where
  tokens := h'.tokens.trans h.tokens
  limit := h'.limit.trans h.limit
  index_le := Nat.le_trans h.index_le h'.index_le
  index_lt := h.tokens ▸ h'.index_lt

/-- The depth does not matter. -/
theorem of_cursor_eq (hcursor : t.cursor = s.cursor) (hlimit : t.limit = s.limit) :
    s.Onward t where
  tokens := by rw [hcursor]
  limit := hlimit
  index_le := Nat.le_of_eq (by rw [hcursor])
  index_lt := by
    rw [hcursor]
    exact s.cursor.index_lt_length

theorem of_moved {u : Tokens} (h : s.Moved u t) : s.Onward t where
  tokens := h.tokens
  limit := h.limit
  index_le := h.index ▸ Nat.le_add_right _ _
  index_lt := h.tokens ▸ t.cursor.index_lt_length

end Onward

end Descent

namespace Program

open Parse

/-- Something that is still to be done. -/
inductive Task where
  | enter (r : Rule)
  | perform {m : Bool} (a : Routine m)
  /-- Close the innermost level. -/
  | close

/-- How a run goes so far, and what is still to be done, the next task first. -/
structure Stage where
  outcome : Outcome
  work : List Task

namespace Stage

/-- The state that the run is in. -/
def state (x : Stage) : Descent :=
  final x.outcome

/-- Enter a rule at `s`. -/
def entering (s : Descent) (work : List Task) (r : Rule) : Stage :=
  if s.limit ≤ s.depth then
    ⟨.error (.nestingTooDeep s.limit s.cursor.current) s, work⟩
  else
    ⟨.ok () s.opened, .perform (routine r) :: .close :: work⟩

/-- Begin a routine at `s`. -/
def performing (s : Descent) (work : List Task) : {m : Bool} → Routine m → Stage
  | _, .done => ⟨.ok () s, work⟩
  | _, .advance => ⟨Parse.advance s, work⟩
  | _, .consume kind => ⟨Parse.consume kind s, work⟩
  | _, .fail expected => ⟨Parse.fail expected s, work⟩
  | _, .call r _ => ⟨.ok () s, .enter r :: work⟩
  | _, .seq a b => ⟨.ok () s, .perform a :: .perform b :: work⟩
  | _, .branch test a b =>
    ⟨.ok () s, (if test s.kind then .perform a else .perform b) :: work⟩
  | _, .loop test a =>
    ⟨.ok () s, if test s.kind then .perform a :: .perform (.loop test a) :: work else work⟩

/-- One step of a run. After an error, only levels are closed. -/
inductive Next : Stage → Stage → Prop where
  | close (o : Outcome) (work : List Task) : Next ⟨o, .close :: work⟩ ⟨closing o, work⟩
  | drop (e : SyntaxError) (s : Descent) {t : Task} (work : List Task) (h : t ≠ .close) :
      Next ⟨.error e s, t :: work⟩ ⟨.error e s, work⟩
  | enter (s : Descent) (r : Rule) (work : List Task) :
      Next ⟨.ok () s, .enter r :: work⟩ (entering s work r)
  | perform (s : Descent) {m : Bool} (a : Routine m) (work : List Task) :
      Next ⟨.ok () s, .perform a :: work⟩ (performing s work a)

/-- One stage is followed by the other, after any number of steps. -/
abbrev Reaches : Stage → Stage → Prop :=
  Relation.ReflTransGen Next

/-- Nothing is done yet but to call the rule. -/
def calling (r : Rule) (s : Descent) : Stage :=
  ⟨.ok () s, [.enter r]⟩

variable {x y : Stage} {s : Descent} {m : Bool} {r : Rule}

/-- A run goes on until nothing is left to be done. -/
theorem exists_next (h : x.work ≠ []) : ∃ y, x.Next y := by
  obtain ⟨o, work⟩ := x
  obtain ⟨t, work, rfl⟩ := List.exists_cons_of_ne_nil h
  cases t with
  | close => exact ⟨_, .close o work⟩
  | enter r =>
    cases o with
    | ok _ s => exact ⟨_, .enter s r work⟩
    | error e s => exact ⟨_, .drop e s work nofun⟩
  | perform a =>
    cases o with
    | ok _ s => exact ⟨_, .perform s a work⟩
    | error e s => exact ⟨_, .drop e s work nofun⟩

-- ---------------------------------------------------------------------------
-- Where a run ends
-- ---------------------------------------------------------------------------

/-- What comes of doing `p` next, unless there was an error. -/
def andThen (p : Parse Unit) : Outcome → Outcome
  | .ok _ s => p s
  | .error e s => .error e s

/-- What comes of a task. -/
def after (o : Outcome) : Task → Outcome
  | .enter r => andThen (parse r) o
  | .perform a => andThen a.parse o
  | .close => closing o

/-- What comes of all that is left to be done. -/
def ending (x : Stage) : Outcome :=
  x.work.foldl after x.outcome

theorem andThen_bind (p q : Parse Unit) (s : Descent) :
    (do p; q) s = andThen q (p s) := by
  cases hs : p s with
  | ok _ s' => rw [bind_of_ok hs]; rfl
  | error e s' => rw [bind_of_error hs]; rfl

theorem ending_entering (s : Descent) (work : List Task) (r : Rule) :
    (entering s work r).ending = work.foldl after (parse r s) := by
  rw [entering, parse_eq]
  split
  · next h => rw [nonterminal_of_le h]; rfl
  · next h => rw [nonterminal_of_lt (Nat.lt_of_not_le h)]; rfl

theorem ending_performing (s : Descent) (work : List Task) (a : Routine m) :
    (performing s work a).ending = work.foldl after (a.parse s) := by
  cases a with
  | done | advance | consume | fail | call => rfl
  | seq a b => rw [Routine.parse, andThen_bind]; rfl
  | branch test a b =>
    rw [Routine.parse_branch, performing, ending]
    split <;> rfl
  | loop test a =>
    have hconsuming : Consuming a.parse := a.consuming_parse rfl
    rw [Routine.parse, performing, ending]
    by_cases h : test s.kind
    · rw [if_pos h, many_of_starts hconsuming h, andThen_bind]; rfl
    · rw [if_neg h, many_of_not_starts (Bool.eq_false_iff.2 h)]

/-- No step changes what comes of the rest. -/
theorem Next.ending (h : x.Next y) : y.ending = x.ending := by
  cases h with
  | close o work => rfl
  | @drop e s t work ht =>
    cases t with
    | close => exact absurd rfl ht
    | enter | perform => rfl
  | enter s r work => exact ending_entering s work r
  | perform s a work => exact ending_performing s work a

-- ---------------------------------------------------------------------------
-- What a run keeps
-- ---------------------------------------------------------------------------

/-- How many levels are still to be closed. -/
def levels : List Task → Nat
  | [] => 0
  | .close :: work => levels work + 1
  | .enter _ :: work => levels work
  | .perform _ :: work => levels work

theorem performing_moved (s : Descent) (work : List Task) (a : Routine m) :
    (∃ u, s.Moved u (performing s work a).state) ∧
      levels (performing s work a).work = levels work := by
  have here : ∃ u, s.Moved u s := ⟨[], .refl s⟩
  cases a with
  | done => exact ⟨here, rfl⟩
  | advance => exact ⟨Forward.advance s, rfl⟩
  | consume kind => exact ⟨Forward.consume kind s, rfl⟩
  | fail expected => exact ⟨Forward.fail expected s, rfl⟩
  | call r hr => exact ⟨here, rfl⟩
  | seq a b => exact ⟨here, rfl⟩
  | branch test a b =>
    refine ⟨here, ?_⟩
    rw [performing]
    split <;> rfl
  | loop test a =>
    refine ⟨here, ?_⟩
    rw [performing]
    split <;> rfl

/-- A step moves the cursor and leaves the levels, or opens a level within the limit, or closes
one. -/
theorem Next.state_cases (h : x.Next y) :
    (∃ u, x.state.Moved u y.state ∧ levels y.work = levels x.work) ∨
      (x.state.depth < x.state.limit ∧ y.state = x.state.opened ∧
        levels y.work = levels x.work + 1) ∨
      (y.state = x.state.closed ∧ levels x.work = levels y.work + 1) := by
  cases h with
  | close o work => exact .inr (.inr ⟨final_closing o, rfl⟩)
  | @drop e s t work ht =>
    cases t with
    | close => exact absurd rfl ht
    | enter | perform => exact .inl ⟨[], .refl s, rfl⟩
  | enter s r work =>
    rw [entering]
    split
    · exact .inl ⟨[], .refl s, rfl⟩
    · next hroom => exact .inr (.inl ⟨Nat.lt_of_not_le hroom, rfl, rfl⟩)
  | perform s a work =>
    obtain ⟨⟨u, hmoved⟩, hlevels⟩ := performing_moved s work a
    exact .inl ⟨u, hmoved, hlevels⟩

/-- The stage belongs to a run that began at `s`. -/
structure Within (s : Descent) (x : Stage) : Prop where
  onward : s.Onward x.state
  depth : x.state.depth = s.depth + levels x.work
  depth_le : x.state.depth ≤ s.limit

theorem within_calling (r : Rule) (h : s.depth ≤ s.limit) : Within s (calling r s) :=
  ⟨.of_cursor_eq rfl rfl, rfl, h⟩

namespace Within

theorem next (h : Within s x) (hxy : x.Next y) : Within s y := by
  have hdepth := h.depth
  obtain ⟨u, hmoved, hlevels⟩ | ⟨hroom, hopened, hlevels⟩ | ⟨hclosed, hlevels⟩ := hxy.state_cases
  · exact
      { onward := h.onward.trans (.of_moved hmoved)
        depth := by rw [hmoved.depth, hlevels, hdepth]
        depth_le := hmoved.depth ▸ h.depth_le }
  · have hopen : y.state.depth = x.state.depth + 1 := by rw [hopened]; rfl
    exact
      { onward := h.onward.trans (.of_cursor_eq (by rw [hopened]; rfl) (by rw [hopened]; rfl))
        depth := by omega
        depth_le := by rw [hopen, ← h.onward.limit]; exact hroom }
  · have hclose : y.state.depth = x.state.depth - 1 := by rw [hclosed]; rfl
    exact
      { onward := h.onward.trans (.of_cursor_eq (by rw [hclosed]; rfl) (by rw [hclosed]; rfl))
        depth := by omega
        depth_le := hclose ▸ Nat.le_trans (Nat.sub_le _ _) h.depth_le }

theorem reaches (h : Within s x) (hxy : x.Reaches y) : Within s y := by
  induction hxy with
  | refl => exact h
  | tail _ hnext ih => exact ih.next hnext

end Within

end Stage

end Program

end FrontEnd

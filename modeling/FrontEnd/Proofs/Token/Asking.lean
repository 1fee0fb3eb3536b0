-- SUMMARY: The two ways of asking a lexer give the same answers, in whatever order they are mixed.
import FrontEnd.Proofs.Token.Observing
import FrontEnd.Proofs.Token.Scanning
import Mathlib.Data.List.Basic
import Mathlib.Logic.Function.Iterate

/-!
# Asking a lexer

A lexer can be asked by `nextToken` and by `next`, and both move the same lexer.
The answers by `nextToken` alone are a sequence that does not change any more
once it came to an end-of-file token or an error. However the two ways are mixed,
each answer is the next one of this sequence. What `next` keeps to itself is
whether it has given the last one: from then on it has no answer, while
`nextToken` goes on.
-/

namespace FrontEnd

namespace Lexer

variable {x y : Lexer}

abbrev Answer := Except InvalidCharacter Token

-- ---------------------------------------------------------------------------
-- One answer
-- ---------------------------------------------------------------------------

/-- An answer does not depend on `done`, nor does it change it. A last answer is given again. -/
theorem exists_nextToken (xs : List Located) (finish : Position) :
    ∃ answer ys, (∀ done, nextToken ⟨xs, finish, done⟩ = (answer, ⟨ys, finish, done⟩)) ∧
      (isLast answer = true →
        ∀ done, nextToken ⟨ys, finish, done⟩ = (answer, ⟨ys, finish, done⟩)) := by
  induction segmented xs with
  | nil =>
    exact ⟨.ok (.endOfFile finish), [], fun _ => nextToken_nil _ rfl,
      fun _ _ => nextToken_nil _ rfl⟩
  | spacing hc _ ih =>
    obtain ⟨answer, ys, h, hlast⟩ := ih
    exact ⟨answer, ys, fun done => (nextToken_spacing hc done).trans (h done), hlast⟩
  | token hσ hrun hstop _ _ =>
    refine ⟨_, _, nextToken_token hσ hrun hstop, fun hlast => ?_⟩
    exact absurd (of_decide_eq_true hlast) (Spelling.kind_ne_endOfFile hσ _)
  | invalid hc hσ => exact ⟨_, _, nextToken_invalid hc hσ, fun _ => nextToken_invalid hc hσ⟩

theorem nextToken_withDone (x : Lexer) (done : Bool) :
    nextToken { x with done } = (x.nextToken.1, { x.nextToken.2 with done }) := by
  obtain ⟨xs, finish, done'⟩ := x
  obtain ⟨answer, ys, h, -⟩ := exists_nextToken xs finish
  rw [h, h]

@[simp] theorem done_nextToken (x : Lexer) : x.nextToken.2.done = x.done := by
  obtain ⟨xs, finish, done⟩ := x
  obtain ⟨answer, ys, h, -⟩ := exists_nextToken xs finish
  rw [h]

theorem nextToken_again (h : isLast x.nextToken.1 = true) :
    x.nextToken.2.nextToken = x.nextToken := by
  obtain ⟨xs, finish, done⟩ := x
  obtain ⟨answer, ys, hanswer, hlast⟩ := exists_nextToken xs finish
  rw [hanswer] at h ⊢
  exact hlast h done

-- ---------------------------------------------------------------------------
-- The answers of a lexer
-- ---------------------------------------------------------------------------

/-- The lexer behind `n` answers by `nextToken`. -/
def advance (x : Lexer) (n : Nat) : Lexer :=
  (·.nextToken.2)^[n] x

theorem advance_succ (x : Lexer) (n : Nat) : x.advance (n + 1) = x.nextToken.2.advance n :=
  Function.iterate_succ_apply _ _ _

theorem advance_withDone (x : Lexer) (done : Bool) (n : Nat) :
    advance { x with done } n = { x.advance n with done } := by
  induction n generalizing x with
  | zero => rfl
  | succ n ih => rw [advance_succ, advance_succ, nextToken_withDone, ih]

/-- The answers by `nextToken`, counted from zero. -/
def answer (x : Lexer) (i : Nat) : Answer :=
  (x.advance i).nextToken.1

theorem answer_zero (x : Lexer) : x.answer 0 = x.nextToken.1 := rfl

theorem answer_succ (x : Lexer) (i : Nat) : x.answer (i + 1) = x.nextToken.2.answer i := by
  rw [answer, advance_succ, answer]

/-- From a last answer on, all answers are the same. -/
theorem answer_of_isLast {i j : Nat} (h : isLast (x.answer i) = true) (hle : i ≤ j) :
    x.answer j = x.answer i := by
  suffices hsame : (x.advance j).nextToken = (x.advance i).nextToken from congrArg Prod.fst hsame
  induction hle with
  | refl => rfl
  | @step j _ ih =>
    have hnext : x.advance (j + 1) = (x.advance j).nextToken.2 :=
      Function.iterate_succ_apply' _ _ _
    rw [hnext, ih]
    exact nextToken_again h

theorem answer_spacing {c : Located} (hc : isSpacing c.char = true) (xs : List Located)
    (finish : Position) (done : Bool) (i : Nat) :
    answer ⟨c :: xs, finish, done⟩ i = answer ⟨xs, finish, done⟩ i := by
  cases i with
  | zero => rw [answer_zero, answer_zero, nextToken_spacing hc]
  | succ i => rw [answer_succ, answer_succ, nextToken_spacing hc]

/-- Every lexer comes to a last answer. -/
theorem exists_isLast_answer (x : Lexer) : ∃ i, isLast (x.answer i) = true := by
  obtain ⟨xs, finish, done⟩ := x
  induction segmented xs with
  | nil => exact ⟨0, by rw [answer_zero, nextToken_nil _ rfl]; rfl⟩
  | spacing hc _ ih =>
    obtain ⟨i, hi⟩ := ih
    exact ⟨i, by rwa [answer_spacing hc]⟩
  | token hσ hrun hstop _ ih =>
    obtain ⟨i, hi⟩ := ih
    exact ⟨i + 1, by rwa [answer_succ, nextToken_token hσ hrun hstop]⟩
  | invalid hc hσ => exact ⟨0, by rw [answer_zero, nextToken_invalid hc hσ]; rfl⟩

-- ---------------------------------------------------------------------------
-- Questions
-- ---------------------------------------------------------------------------

/-- The ways to ask. -/
inductive Question where
  | nextToken
  | next
deriving DecidableEq, Repr

def ask (x : Lexer) : Question → Option Answer × Lexer
  | .nextToken => (some x.nextToken.1, x.nextToken.2)
  | .next => x.next

/-- Questions in order, each with its answer. -/
abbrev Log := List (Question × Option Answer)

/-- Ask one question after the other. -/
def asked (x : Lexer) : List Question → Log × Lexer
  | [] => ([], x)
  | q :: qs =>
    let (answer, x) := x.ask q
    let (log, x) := x.asked qs
    ((q, answer) :: log, x)

theorem asked_cons {q : Question} {answer : Option Answer} (h : x.ask q = (answer, y))
    (qs : List Question) :
    x.asked (q :: qs) = ((q, answer) :: (y.asked qs).1, (y.asked qs).2) := by
  simp [asked, h]

/-- The number of questions with an answer. -/
def given (log : Log) : Nat :=
  log.countP (·.2.isSome)

/-- Whether `next` gave a last answer. -/
def closed (log : Log) : Bool :=
  log.any fun (q, answer) => q = .next && answer.any isLast

theorem closed_iff {log : Log} :
    closed log = true ↔ ∃ answer, (.next, some answer) ∈ log ∧ isLast answer = true := by
  rw [closed, List.any_eq_true]
  constructor
  · rintro ⟨⟨q, answer?⟩, hmem, hlast⟩
    obtain ⟨rfl, hany⟩ : q = .next ∧ answer?.any isLast = true := by simpa using hlast
    obtain ⟨answer, rfl, hlast⟩ := (Option.any_eq_true _ _).1 hany
    exact ⟨answer, hmem, hlast⟩
  · rintro ⟨answer, hmem, hlast⟩
    exact ⟨_, hmem, by simpa using hlast⟩

theorem ask_next_of_done (h : x.done = true) : x.ask .next = (none, x) :=
  next_of_done h

theorem ask_of_open {q : Question} (h : q = .next → x.done = false) :
    x.ask q = (some x.nextToken.1,
      { x.nextToken.2 with done := x.done || (q = .next && isLast x.nextToken.1) }) := by
  cases q with
  | nextToken =>
    have hdone : x.nextToken.2 = { x.nextToken.2 with done := x.done } := by
      rw [← done_nextToken x]
    simp only [ask]
    rw [hdone]
    simp
  | next => simp [ask, next_of_not_done (h rfl), h rfl]

/-- Asking moves the lexer by one for each answer, and what `next` keeps is whether it gave the last
one. -/
theorem asked_eq (x : Lexer) (qs : List Question) :
    (x.asked qs).2 = { x.advance (given (x.asked qs).1) with
      done := x.done || closed (x.asked qs).1 } := by
  induction qs generalizing x with
  | nil =>
    simp [asked, given, closed, advance]
  | cons q qs ih =>
    by_cases hopen : q = .next → x.done = false
    · rw [asked_cons (ask_of_open hopen), ih, advance_withDone]
      generalize (asked _ qs).1 = log
      simp [given, closed, advance_succ, Bool.or_assoc]
    · obtain ⟨rfl, hdone⟩ : q = .next ∧ x.done = true := by simpa using hopen
      rw [asked_cons (ask_next_of_done hdone), ih]
      simp [given, closed]

theorem done_asked (x : Lexer) (qs : List Question) :
    (x.asked qs).2.done = (x.done || closed (x.asked qs).1) := by
  rw [asked_eq]

theorem nextToken_asked (x : Lexer) (qs : List Question) :
    (x.asked qs).2.nextToken.1 = x.answer (given (x.asked qs).1) := by
  rw [asked_eq, nextToken_withDone]
  rfl

-- ---------------------------------------------------------------------------
-- Asking by `next` alone
-- ---------------------------------------------------------------------------

/-- By `next` the lexer gives these answers, and then it gives none and stays as it is. -/
inductive Yields : Lexer → List Answer → Prop where
  | nil {x : Lexer} (h : x.next = (none, x)) : Yields x []
  | cons {x y : Lexer} {answer : Answer} {answers : List Answer} (h : x.next = (some answer, y))
      (hrest : Yields y answers) : Yields x (answer :: answers)

theorem Yields.of_next_eq {answers : List Answer} (h : x.next = y.next) (hopen : y.done = false)
    (hy : Yields y answers) : Yields x answers := by
  cases hy with
  | nil hnext => cases (next_of_not_done hopen).symm.trans hnext
  | cons hnext hrest => exact .cons (h.trans hnext) hrest

theorem yields_of_isLast (h : isLast x.nextToken.1 = true) (hopen : x.done = false) :
    Yields x [x.nextToken.1] :=
  .cons (next_of_not_done hopen) (.nil (next_of_done h))

/-- The answers that a scan is made of. -/
def answersOf (x : Lexed) : List Answer :=
  x.tokens.map .ok ++ x.error.toList.map .error

theorem yields_scan (finish : Position) (xs : List Located) :
    Yields ⟨xs, finish, false⟩ (answersOf (Lexed.scan finish xs)) := by
  induction segmented xs with
  | nil =>
    have hnil := nextToken_nil ⟨[], finish, false⟩ rfl
    have hyields := @yields_of_isLast ⟨[], finish, false⟩ (by rw [hnil]; rfl) rfl
    rw [hnil] at hyields
    rwa [Lexed.scan_nil]
  | spacing hc _ ih =>
    rw [Lexed.scan_spacing hc]
    refine ih.of_next_eq ?_ rfl
    rw [next_of_not_done rfl, next_of_not_done rfl, nextToken_spacing hc]
  | @token c run xs σ hσ hrun hstop _ ih =>
    have hnot : isLast (.ok (tokenOf σ c run)) = false :=
      decide_eq_false (Spelling.kind_ne_endOfFile hσ _)
    rw [Lexed.scan_token hσ hrun hstop]
    refine .cons ?_ ih
    rw [next_of_not_done rfl, nextToken_token hσ hrun hstop, hnot]
  | @invalid c xs hc hσ =>
    have hinvalid := @nextToken_invalid finish c xs hc hσ false
    have hyields := @yields_of_isLast ⟨c :: xs, finish, false⟩ (by rw [hinvalid]; rfl) rfl
    rw [hinvalid] at hyields
    rwa [Lexed.scan_invalid hc hσ]

/-- The answers by `nextToken` come to a last one and stay the same from there on. Behind any
questions, `next` has no answer when an earlier `next` gave a last one, and then nothing is changed;
`nextToken` always has one. Every answer is the one that comes next in the sequence of answers by
`nextToken` alone. By `next` alone the answers are the tokens that are handed to an observer of the
scan, and the error that ended it. -/
theorem ofText_asked (text : String) :
    (∃ i, isLast ((ofText text).answer i) = true) ∧
    (∀ i, isLast ((ofText text).answer i) = true →
      ∀ j, i ≤ j → (ofText text).answer j = (ofText text).answer i) ∧
    (∀ qs log x q, (ofText text).asked qs = (log, x) →
      ((x.ask q).1 = none ↔
        q = .next ∧ ∃ answer, (.next, some answer) ∈ log ∧ isLast answer = true) ∧
      ((x.ask q).1 = none → (x.ask q).2 = x) ∧
      ∀ answer, (x.ask q).1 = some answer →
        answer = (ofText text).answer (log.countP (·.2.isSome))) ∧
    Yields (ofText text)
      ((Lexed.handed text).map .ok ++ (Lexed.ofText text).error.toList.map .error) := by
  refine ⟨exists_isLast_answer _, fun i hi j hle => answer_of_isLast hi hle, ?_, ?_⟩
  · intro qs log x q hasked
    have hdone : x.done = closed log := by
      have hclosed := done_asked (ofText text) qs
      rwa [hasked] at hclosed
    have hanswer : x.nextToken.1 = (ofText text).answer (given log) := by
      have hnext := nextToken_asked (ofText text) qs
      rwa [hasked] at hnext
    by_cases hopen : q = .next → x.done = false
    · rw [ask_of_open hopen, ← closed_iff, ← hdone]
      refine ⟨iff_of_false nofun fun ⟨hq, hclosed⟩ => ?_, nofun, ?_⟩
      · rw [hopen hq] at hclosed
        cases hclosed
      · rintro _ ⟨⟩
        exact hanswer
    · obtain ⟨rfl, hclosed⟩ : q = .next ∧ x.done = true := by simpa using hopen
      rw [ask_next_of_done hclosed, ← closed_iff, ← hdone]
      exact ⟨iff_of_true rfl ⟨rfl, hclosed⟩, fun _ => rfl, nofun⟩
  · rw [Lexed.handed_eq]
    exact yields_scan _ _

/-- An error that came by `nextToken` comes by `next` once more, and only then `next` is over. -/
theorem ofText_asked_error :
    ((ofText "a/").asked [.nextToken, .nextToken, .next]).1 =
        [(.nextToken, some (.ok ⟨.name, "a", ⟨1, 1⟩⟩)),
          (.nextToken, some (.error ⟨'/', ⟨1, 2⟩⟩)), (.next, some (.error ⟨'/', ⟨1, 2⟩⟩))] ∧
      (((ofText "a/").asked [.nextToken, .nextToken, .next]).2.ask .next).1 = none ∧
      (((ofText "a/").asked [.nextToken]).2.ask .next).1 ≠ none := by
  have hfirst : ((ofText "a/").asked [.nextToken]).1 =
      [(.nextToken, some (.ok ⟨.name, "a", ⟨1, 1⟩⟩))] := by decide +kernel
  have hlog : ((ofText "a/").asked [.nextToken, .nextToken, .next]).1 =
      [(.nextToken, some (.ok ⟨.name, "a", ⟨1, 1⟩⟩)),
        (.nextToken, some (.error ⟨'/', ⟨1, 2⟩⟩)), (.next, some (.error ⟨'/', ⟨1, 2⟩⟩))] := by
    decide +kernel
  have hpair {qs log} (h : ((ofText "a/").asked qs).1 = log) :
      (ofText "a/").asked qs = (log, ((ofText "a/").asked qs).2) := Prod.ext h rfl
  obtain ⟨-, -, hmixed, -⟩ := ofText_asked "a/"
  obtain ⟨hopen, -⟩ := hmixed _ _ _ .next (hpair hfirst)
  obtain ⟨hover, -⟩ := hmixed _ _ _ .next (hpair hlog)
  refine ⟨hlog, hover.2 ⟨rfl, _, .tail _ (.tail _ (.head _)), rfl⟩, fun hnone => ?_⟩
  obtain ⟨-, answer, hmem, -⟩ := hopen.1 hnone
  cases List.mem_singleton.1 hmem

end Lexer

end FrontEnd

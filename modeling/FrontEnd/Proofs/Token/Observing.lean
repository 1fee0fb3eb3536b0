-- SUMMARY: A scan that hands each token to an observer as soon as it is built, and what the observer has seen in the end.
import FrontEnd.Token.Lexer

/-!
# Observers of a scan

A scan can hand each token to an observer as soon as it is built. The observer
has a state of its own and cannot influence the scan, so in the end it has seen
the tokens of the scan in order (`Lexed.ofTextWith_eq`), also where the scan comes
to an error.
-/

namespace FrontEnd

namespace Lexed

variable {σ : Type}

/-- The loop of `ofTextWith`: at most `n` more answers, after the tokens in `seen`, latest first. -/
def collectWith (observe : Token → σ → σ) (seen : Tokens) (a : σ) : Nat → Lexer → Lexed × σ
  | 0, _ => ({ tokens := seen.reverse }, a)
  | n + 1, x =>
    match x.next with
    | (none, _) => ({ tokens := seen.reverse }, a)
    | (some (.error e), _) => ({ tokens := seen.reverse, error := some e }, a)
    | (some (.ok t), x) => collectWith observe (t :: seen) (observe t a) n x

/-- Scan a text and hand each token to an observer as soon as it is built. -/
def ofTextWith (observe : Token → σ → σ) (a : σ) (text : String) : Lexed × σ :=
  let x := Lexer.ofText text
  collectWith observe [] a (x.rest.length + 2) x

/-- An observer that saw these tokens. -/
def observing (observe : Token → σ → σ) (a : σ) (ts : Tokens) : σ :=
  ts.foldl (fun a t => observe t a) a

theorem collectWith_eq (observe : Token → σ → σ) (a : σ) (seen : Tokens) (n : Nat) (x : Lexer) :
    collectWith observe seen (observing observe a seen.reverse) n x =
      (collect seen n x, observing observe a (collect seen n x).tokens) := by
  induction n generalizing seen x with
  | zero => rfl
  | succ n ih =>
    rcases h : x.next with ⟨answer, x'⟩
    cases answer with
    | none => simp only [collectWith, collect, h]
    | some answer =>
      cases answer with
      | error e => simp only [collectWith, collect, h]
      | ok t =>
        have hstep : observing observe a (t :: seen).reverse =
            observe t (observing observe a seen.reverse) := by
          rw [observing, observing, List.reverse_cons, List.foldl_append]
          rfl
        simp only [collectWith, collect, h, ← hstep]
        exact ih (t :: seen) x'

/-- The scan is not influenced, and the observer saw its tokens in order. -/
theorem ofTextWith_eq (observe : Token → σ → σ) (a : σ) (text : String) :
    ofTextWith observe a text = (ofText text, observing observe a (ofText text).tokens) :=
  collectWith_eq observe a [] _ _

/-- The tokens that are handed to an observer, in order. -/
def handed (text : String) : Tokens :=
  (ofTextWith (fun t ts => ts ++ [t]) [] text).2

theorem handed_eq (text : String) : handed text = (ofText text).tokens := by
  have happend (seen ts : Tokens) : observing (fun t ts => ts ++ [t]) seen ts = seen ++ ts := by
    induction ts generalizing seen with
    | nil => exact (List.append_nil seen).symm
    | cons t ts ih => exact (ih (seen ++ [t])).trans (by simp)
  rw [handed, ofTextWith_eq]
  exact happend [] _

end Lexed

end FrontEnd

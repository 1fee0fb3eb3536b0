-- SUMMARY: A place in a nonempty token list, with one token of lookahead.
import FrontEnd.Program.SyntaxError

/-!
# Lookahead

A `Lookahead` stands at one token of a list, the current one, and moves only
forward. There is always a current token: moving past the last one is an error
and leaves the place as it is, because a list need not end with an end-of-file
token.
-/

namespace FrontEnd

structure Lookahead where
  /-- The tokens before the current one, nearest first. -/
  passed : List Token := []
  current : Token
  /-- The tokens after the current one. -/
  ahead : List Token
deriving DecidableEq, Repr

namespace Lookahead

/-- The list that the place is in. -/
def tokens (c : Lookahead) : Tokens :=
  c.passed.reverse ++ c.current :: c.ahead

/-- The number of tokens before the current one. -/
def index (c : Lookahead) : Nat :=
  c.passed.length

theorem getElem?_index (c : Lookahead) : c.tokens[c.index]? = some c.current := by
  simp [tokens, index]

theorem index_lt_length (c : Lookahead) : c.index < c.tokens.length := by
  simp [tokens, index]

/-- The first token of a list. -/
def ofTokens : Tokens → Except SyntaxError Lookahead
  | [] => .error (.unexpectedEnd none)
  | t :: ts => .ok { current := t, ahead := ts }

theorem tokens_of_ofTokens {ts : Tokens} {c : Lookahead} (h : ofTokens ts = .ok c) :
    c.tokens = ts ∧ c.index = 0 := by
  cases ts with
  | nil => simp [ofTokens] at h
  | cons t ts =>
    cases h
    simp [tokens, index]

/-- Move to the next token. -/
def advance (c : Lookahead) : Except SyntaxError Lookahead :=
  match c.ahead with
  | [] => .error (.unexpectedEnd (some c.current))
  | t :: ahead => .ok { passed := c.current :: c.passed, current := t, ahead }

/-- Moving changes the place and not the list. -/
theorem tokens_of_advance {c d : Lookahead} (h : c.advance = .ok d) :
    d.tokens = c.tokens ∧ d.index = c.index + 1 := by
  unfold advance at h
  split at h
  · cases h
  · next t ahead hahead =>
    cases h
    simp [tokens, index, hahead]

/-- Whether the current token is of the given kind. -/
def check (c : Lookahead) (kind : Kind) : Bool :=
  c.current.kind = kind

/-- The error that something else should stand here. -/
def unexpected (c : Lookahead) (expected : Expected) : SyntaxError :=
  .unexpectedToken expected c.current

/-- Move past a token of the given kind. -/
def consume (c : Lookahead) (kind : Kind) : Except SyntaxError Lookahead :=
  if c.check kind then c.advance else .error (c.unexpected (.kind kind))

end Lookahead

end FrontEnd

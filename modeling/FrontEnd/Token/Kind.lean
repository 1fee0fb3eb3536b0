-- SUMMARY: The kinds of tokens, their shown names and their order.

/-!
# Token kinds

A token is of one of twelve kinds. The list `Kind.all` fixes their order; only
listings depend on it, the grammar does not.
-/

namespace FrontEnd

inductive Kind where
  | endOfFile
  | print
  | unsignedInt
  | name
  | assign
  | leftParen
  | rightParen
  | plus
  | minus
  | times
  | newline
  | error
deriving DecidableEq, Repr, Inhabited

namespace Kind

/-- Every kind, in order. -/
def all : List Kind :=
  [.endOfFile, .print, .unsignedInt, .name, .assign, .leftParen, .rightParen, .plus, .minus,
   .times, .newline, .error]

theorem mem_all (k : Kind) : k ∈ all := by
  cases k <;> decide

/-- The place of a kind in `all`. -/
def ordinal (k : Kind) : Nat :=
  all.idxOf k

def compare (k l : Kind) : Ordering :=
  Ord.compare k.ordinal l.ordinal

/-- The name that diagnostics and the trace table show. -/
def displayName : Kind → String
  | endOfFile => "EOF"
  | print => "PRINT"
  | unsignedInt => "UNSIGNEDINT"
  | name => "NAME"
  | assign => "ASSIGNOP"
  | leftParen => "LEFTPAREN"
  | rightParen => "RIGHTPAREN"
  | plus => "PLUS"
  | minus => "MINUS"
  | times => "TIMES"
  | newline => "NEWLINE"
  | error => "ERROR"

/-- Whether a statement can begin with a token of this kind. -/
def startsStatement : Kind → Bool
  | name | print => true
  | _ => false

theorem startsStatement_iff {k : Kind} : k.startsStatement = true ↔ k = .name ∨ k = .print := by
  cases k <;> simp [startsStatement]

end Kind

end FrontEnd

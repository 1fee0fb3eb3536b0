-- SUMMARY: Syntax errors of programs: what was expected, what was found, and the messages.
import FrontEnd.Diagnostic.Code
import FrontEnd.Token.Basic

/-!
# Syntax errors

A program is rejected at the first token that cannot continue it, at the end of
a token list that stops in the middle of it, or where its nesting passes the
limit.
-/

namespace FrontEnd

/-- What may stand at a place where something else was found. -/
inductive Expected where
  /-- A token of one kind. -/
  | kind (kind : Kind)
  /-- The beginning of a statement. -/
  | statement
  /-- The beginning of a factor. -/
  | factor
deriving DecidableEq, Repr

def Expected.describe : Expected → String
  | kind .endOfFile => "end of file"
  | kind k => k.displayName
  | statement => "statement"
  | factor => "factor"

inductive SyntaxError where
  | unexpectedToken (expected : Expected) (found : Token)
  /-- The token list stops after `last`, or is empty. -/
  | unexpectedEnd (last : Option Token)
  /-- At `token` more than `limit` levels would be open. -/
  | nestingTooDeep (limit : Nat) (token : Token)
deriving DecidableEq, Repr

namespace SyntaxError

def code : SyntaxError → Code
  | unexpectedToken .. => .unexpectedToken
  | unexpectedEnd _ => .unexpectedEnd
  | nestingTooDeep .. => .nestingTooDeep

def message : SyntaxError → String
  | unexpectedToken expected _ => "expecting " ++ expected.describe
  | unexpectedEnd _ => "unexpected end of file"
  | nestingTooDeep limit _ => "nesting exceeds the limit of " ++ limit.repr ++ " levels"

/-- The token that the error is reported at. -/
def token? : SyntaxError → Option Token
  | unexpectedToken _ found => some found
  | unexpectedEnd last => last
  | nestingTooDeep _ token => some token

end SyntaxError

end FrontEnd

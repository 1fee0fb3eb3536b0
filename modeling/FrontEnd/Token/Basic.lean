-- SUMMARY: Tokens, lists of tokens, and the character that starts no token.
import FrontEnd.Source.Basic
import FrontEnd.Text.Quoted
import FrontEnd.Token.Kind

/-!
# Tokens

A token is a run of source characters, its lexeme, with its kind and the
position of its first character. A text that was scanned to its end gives a list
with one end-of-file token, the last, whose lexeme is empty. A list put together
by other means need not have one.

Scanning fails in one way only, at a character that starts no token. The error
keeps the character and its position, and stands for a token of kind `error`, so
that it is reported at a lexeme like every other error.
-/

namespace FrontEnd

structure Token where
  kind : Kind
  lexeme : String
  position : Position
deriving DecidableEq, Repr

namespace Token

/-- The token that stands for the end of a text. -/
def endOfFile (position : Position) : Token :=
  ⟨.endOfFile, "", position⟩

@[simp] theorem kind_endOfFile (p : Position) : (endOfFile p).kind = .endOfFile := rfl
@[simp] theorem lexeme_endOfFile (p : Position) : (endOfFile p).lexeme = "" := rfl
@[simp] theorem position_endOfFile (p : Position) : (endOfFile p).position = p := rfl

/-- The token as a listing shows it: kind, quoted lexeme and position. -/
def describe (t : Token) : String :=
  t.kind.displayName ++ " " ++ Text.quote t.lexeme ++ " @ " ++ t.position.brief

end Token

/-- Tokens in source order. -/
abbrev Tokens := List Token

namespace Tokens

/-- Whether the last token is an end-of-file token and no other one is. -/
def isTerminated (ts : Tokens) : Bool :=
  ts.countP (·.kind = .endOfFile) == 1 && ts.getLast?.any (·.kind = .endOfFile)

/-- An end-of-file token behind a list without any terminates it. -/
theorem isTerminated_append {ts : Tokens} (h : ∀ t ∈ ts, t.kind ≠ .endOfFile) (p : Position) :
    isTerminated (ts ++ [.endOfFile p]) = true := by
  have none : ts.countP (·.kind = .endOfFile) = 0 :=
    List.countP_eq_zero.2 fun t ht => by simpa using h t ht
  simp [isTerminated, none]

/-- The list as a listing shows it. -/
def describe (ts : Tokens) : String :=
  "TokenList \x7b tokens: [" ++ ", ".intercalate (ts.map Token.describe) ++ "] \x7d"

end Tokens

structure InvalidCharacter where
  found : Char
  position : Position
deriving DecidableEq, Repr

namespace InvalidCharacter

/-- The rejected character as a token. -/
def token (e : InvalidCharacter) : Token :=
  ⟨.error, e.found.toString, e.position⟩

/-- What is wrong, without the place. -/
def reason (e : InvalidCharacter) : String :=
  "invalid character " ++ Text.quoteChar e.found

def message (e : InvalidCharacter) : String :=
  e.reason ++ " at " ++ e.position.describe

end InvalidCharacter

end FrontEnd

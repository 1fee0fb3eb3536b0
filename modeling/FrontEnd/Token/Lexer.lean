-- SUMMARY: The lexer: tokens of a source text one at a time, and the whole text at once.
import FrontEnd.Source.Reader
import FrontEnd.Token.Basic
import FrontEnd.Token.Spelling

/-!
# Lexers

A `Lexer` holds the characters of a text that belong to no token yet, as a
`Reader` hands them out. A token is taken from their front in three steps: drop
the spacing, look at the first character, and take the longest run that
continues it (`Spelling`). Where the first character starts no token the lexer
stays in front of it, so asking again gives the same error; at the end of the
text it gives an end-of-file token every time.

There are two ways to ask. `nextToken` always answers. `next` answers up to the
end-of-file token or the first error, whichever comes first, and nothing after
that. `Lexed.ofText` asks by `next` until there is no answer.
-/

namespace FrontEnd

structure Lexer where
  /-- The characters that belong to no token yet. -/
  rest : List Located
  /-- The position of the end of the text. -/
  finish : Position
  /-- Whether `next` has answered for the last time. -/
  done : Bool := false

namespace Lexer

def ofText (text : String) : Lexer :=
  let (rest, reader) := (Reader.ofText text).drain
  { rest, finish := reader.position }

/-- Take the token of kind `kind lexeme` that starts with `c` and goes on as long as `accept`
holds. -/
def takeRun (x : Lexer) (kind : String → Kind) (accept : Char → Bool) (c : Located)
    (rest : List Located) : Token × Lexer :=
  let lexeme := String.ofList (c.char :: (rest.takeWhile (accept ·.char)).map (·.char))
  (⟨kind lexeme, lexeme, c.position⟩, { x with rest := rest.dropWhile (accept ·.char) })

/-- The next token, or the character that starts none. -/
def nextToken (x : Lexer) : Except InvalidCharacter Token × Lexer :=
  match x.rest.dropWhile (isSpacing ·.char) with
  | [] => (.ok (.endOfFile x.finish), { x with rest := [] })
  | c :: rest =>
    if c.char.isDigit then
      let (t, x) := x.takeRun (fun _ => .unsignedInt) Char.isDigit c rest
      (.ok t, x)
    else if isWordStart c.char then
      let (t, x) := x.takeRun Kind.ofWord isWordPart c rest
      (.ok t, x)
    else
      match Kind.ofSymbol? c.char with
      | some kind => (.ok ⟨kind, c.char.toString, c.position⟩, { x with rest })
      | none => (.error ⟨c.char, c.position⟩, { x with rest := c :: rest })

/-- Whether an answer is the last one that `next` gives. -/
def isLast : Except InvalidCharacter Token → Bool
  | .ok t => t.kind = .endOfFile
  | .error _ => true

/-- The next token or error, up to the first end-of-file token or error. -/
def next (x : Lexer) : Option (Except InvalidCharacter Token) × Lexer :=
  if x.done then (none, x)
  else
    let (answer, x) := x.nextToken
    (some answer, { x with done := isLast answer })

theorem next_of_done {x : Lexer} (h : x.done = true) : x.next = (none, x) := by
  simp [next, h]

theorem next_of_not_done {x : Lexer} (h : x.done = false) :
    x.next = (some x.nextToken.1, { x.nextToken.2 with done := isLast x.nextToken.1 }) := by
  simp [next, h]

end Lexer

/-- What scanning a text gives: the tokens, in order, and the error that ended it early. -/
structure Lexed where
  tokens : Tokens
  error : Option InvalidCharacter := none
deriving DecidableEq, Repr

namespace Lexed

/-- The loop of `ofLexer`: at most `n` more answers, after the tokens in `seen`, latest first. -/
def collect (seen : Tokens) : Nat → Lexer → Lexed
  | 0, _ => { tokens := seen.reverse }
  | n + 1, x =>
    match x.next with
    | (none, _) => { tokens := seen.reverse }
    | (some (.error e), _) => { tokens := seen.reverse, error := some e }
    | (some (.ok t), x) => collect (t :: seen) n x

/-- The answers of a lexer up to the last one. Every answer but the end-of-file token and the
error takes a character, which bounds their number. -/
def ofLexer (x : Lexer) : Lexed :=
  collect [] (x.rest.length + 2) x

def ofText (text : String) : Lexed :=
  ofLexer (.ofText text)

/-- The tokens of a text that scans to its end. -/
def result (x : Lexed) : Except InvalidCharacter Tokens :=
  match x.error with
  | none => .ok x.tokens
  | some e => .error e

end Lexed

end FrontEnd

-- SUMMARY: Programs of the language: recursive descent over a token list under a nesting limit.
import FrontEnd.Program.Lookahead

/-!
# Recognition of programs

A program is a sequence of statements, one on a line.

    program    -> stmt* EOF
    stmt       -> simplestmt NEWLINE
    simplestmt -> NAME '=' expr | PRINT '(' expr ')'
    expr       -> term ('+' term)*
    term       -> factor ('*' factor)*
    factor     -> '+' factor | '-' factor | UNSIGNEDINT | NAME | '(' expr ')'

Each rule has a function of its own, which decides by the current token alone
and stops at the first token that does not fit. Each function also opens a level
of nesting and closes it when it is done, with an error or without; a level that
would pass the limit is an error before any token of it is looked at.

The rules for expressions call each other, always behind a token that was moved
past. So the tokens ahead bound both the depth of the calls and the number of
rounds of a loop, and the functions recurse on their list.
-/

namespace FrontEnd

/-- The state of a descent. -/
structure Descent where
  cursor : Lookahead
  /-- How many levels may be open at once. -/
  limit : Nat
  /-- How many levels are open. -/
  depth : Nat := 0
deriving DecidableEq, Repr

/-- A part of a descent. The state is kept when it ends with an error. -/
abbrev Parse := EStateM SyntaxError Descent

namespace Parse

/-- The kind of the current token. -/
@[inline] def kind : Parse Kind := fun s =>
  .ok s.cursor.current.kind s

/-- Move the cursor as `move` does, or fail where it fails. -/
@[inline] def moving (move : Lookahead → Except SyntaxError Lookahead) : Parse Unit := fun s =>
  match move s.cursor with
  | .ok cursor => .ok () { s with cursor }
  | .error e => .error e s

/-- Move to the next token. -/
def advance : Parse Unit :=
  moving Lookahead.advance

/-- Move past a token of the given kind. -/
def consume (kind : Kind) : Parse Unit :=
  moving (·.consume kind)

/-- Fail because something else should stand here. -/
def fail (expected : Expected) : Parse Unit := fun s =>
  .error (s.cursor.unexpected expected) s

/-- Run `body` one level deeper. -/
@[inline] def nonterminal (body : Parse Unit) : Parse Unit := fun s =>
  if s.limit ≤ s.depth then
    .error (.nestingTooDeep s.limit s.cursor.current) s
  else
    match body { s with depth := s.depth + 1 } with
    | .ok () s => .ok () { s with depth := s.depth - 1 }
    | .error e s => .error e { s with depth := s.depth - 1 }

/-- The loop of `many`, for one round and one more for each token of the list. -/
@[specialize] def manyWithin (starts : Kind → Bool) (body : Parse Unit) : List Token → Parse Unit
  | [] => do
    if starts (← kind) then
      body
  | _ :: ahead => do
    if starts (← kind) then
      body
      manyWithin starts body ahead

/-- Run `body` as long as the current token is of a kind that starts it. Where each round moves past
a token, there are no more rounds that succeed than tokens ahead. -/
@[inline] def many (starts : Kind → Bool) (body : Parse Unit) : Parse Unit := fun s =>
  manyWithin starts body s.cursor.ahead s

/-- One `item`, and more of them behind a token of kind `separator` each. -/
@[inline] def chain (separator : Kind) (item : Parse Unit) : Parse Unit := do
  item
  many (· = separator) (do advance; item)

end Parse

namespace Program

open Parse

/-- A term made of the given factors. -/
def termOf (factor : Parse Unit) : Parse Unit :=
  nonterminal (chain .times factor)

/-- An expression made of the given factors. -/
def exprOf (factor : Parse Unit) : Parse Unit :=
  nonterminal (chain .plus (termOf factor))

/-- A factor, with the given ones inside. -/
def factorOf (factor : Parse Unit) : Parse Unit :=
  nonterminal do
    match ← kind with
    | .plus | .minus => advance; factor
    | .unsignedInt | .name => advance
    | .leftParen => advance; exprOf factor; consume .rightParen
    | _ => fail .factor

/-- A factor with no more tokens ahead than the list has. No factor is inside one that has none. -/
def factorWithin : List Token → Parse Unit
  | [] => factorOf (pure ())
  | _ :: ahead => factorOf (factorWithin ahead)

def factor : Parse Unit := fun s =>
  factorWithin s.cursor.ahead s

def term : Parse Unit :=
  termOf factor

def expr : Parse Unit :=
  exprOf factor

def simpleStatement : Parse Unit :=
  nonterminal do
    match ← kind with
    | .name => advance; consume .assign; expr
    | .print => advance; consume .leftParen; expr; consume .rightParen
    | _ => fail .statement

def statement : Parse Unit :=
  nonterminal do
    simpleStatement
    consume .newline

/-- The end-of-file token is looked at and not moved past. -/
def program : Parse Unit :=
  nonterminal do
    many Kind.startsStatement statement
    if (← kind) ≠ .endOfFile then
      fail (.kind .endOfFile)

/-- The limit on open levels unless another is asked for. -/
def defaultLimit : Nat := 1024

/-- Whether the list begins with a whole program that stays within `limit` levels, or else the
first error. -/
def check (limit : Nat) (tokens : Tokens) : Except SyntaxError Unit := do
  let cursor ← Lookahead.ofTokens tokens
  match program { cursor, limit } with
  | .ok () _ => .ok ()
  | .error e _ => .error e

end Program

end FrontEnd

-- SUMMARY: The rules of a descent as data: what each does inside its level, one step behind the other.
import FrontEnd.Proofs.Grammar.Tree
import FrontEnd.Proofs.Program.Unfolding

/-!
# Routines

What a rule does inside its level is put together from few things: moving the
cursor, failing, calling another rule, and doing one thing after another, by the
current kind or again and again. As data this is a `Routine`, which can be taken
apart where a function cannot.

The type of a routine says whether it moves past a token wherever it succeeds. A
loop asks for that of its rounds. The rules call each other by name, so no bound
is needed for the recursion: `parse_eq` says that each rule does its routine one
level deeper.
-/

namespace FrontEnd

open Grammar

namespace Parse

/-- What follows consumes where what comes first does not move back. -/
theorem Consuming.bind_forward {p q : Parse Unit} (hp : Forward p) (hq : Consuming q) :
    Consuming (do p; q) := by
  intro s s' h
  cases hs : p s with
  | ok _ m =>
    rw [bind_of_ok hs] at h
    exact Nat.lt_of_lt_of_le (hq m s' h) (hp.length_le hs)
  | error e m => simp [bind_of_error hs] at h

end Parse

namespace Program

/-- What can be done at a state. The index says that a token is passed wherever this succeeds. -/
inductive Routine : Bool → Type where
  | done : Routine false
  | advance : Routine true
  | consume (kind : Kind) : Routine true
  | fail (expected : Expected) : Routine true
  /-- No rule calls that of programs. Each of the others moves past a token. -/
  | call (r : Rule) (h : r ≠ .program) : Routine true
  | seq {m n : Bool} (a : Routine m) (b : Routine n) : Routine (m || n)
  /-- Do `a` where the kind of the current token passes the test, and `b` otherwise. -/
  | branch {m n : Bool} (test : Kind → Bool) (a : Routine m) (b : Routine n) : Routine (m && n)
  /-- Do `a` as long as the kind of the current token passes the test. -/
  | loop (test : Kind → Bool) (a : Routine true) : Routine false

/-- What a rule does inside its level. -/
def routine : (r : Rule) → Routine (r ≠ .program)
  | .program =>
    .seq (.loop Kind.startsStatement (.call .statement nofun))
      (.branch (· = .endOfFile) .done (.fail (.kind .endOfFile)))
  | .statement => .seq (.call .simpleStatement nofun) (.consume .newline)
  | .simpleStatement =>
    .branch (· = .name) (.seq .advance (.seq (.consume .assign) (.call .expr nofun)))
      (.branch (· = .print)
        (.seq .advance
          (.seq (.consume .leftParen) (.seq (.call .expr nofun) (.consume .rightParen))))
        (.fail .statement))
  | .expr => .seq (.call .term nofun) (.loop (· = .plus) (.seq .advance (.call .term nofun)))
  | .term => .seq (.call .factor nofun) (.loop (· = .times) (.seq .advance (.call .factor nofun)))
  | .factor =>
    .branch (fun k => k = .plus ∨ k = .minus) (.seq .advance (.call .factor nofun))
      (.branch (fun k => k = .unsignedInt ∨ k = .name) .advance
        (.branch (· = .leftParen)
          (.seq .advance (.seq (.call .expr nofun) (.consume .rightParen)))
          (.fail .factor)))

/-- The function of a rule. -/
def parse : Rule → Parse Unit
  | .program => program
  | .statement => statement
  | .simpleStatement => simpleStatement
  | .expr => expr
  | .term => term
  | .factor => factor

/-- A routine as a part of a descent. -/
def Routine.parse : {m : Bool} → Routine m → Parse Unit
  | _, done => pure ()
  | _, advance => Parse.advance
  | _, consume kind => Parse.consume kind
  | _, fail expected => Parse.fail expected
  | _, call r _ => Program.parse r
  | _, seq a b => do a.parse; b.parse
  | _, branch test a b => do if test (← Parse.kind) then a.parse else b.parse
  | _, loop test a => Parse.many test a.parse

open Parse

variable {m n : Bool} {s s' : Descent}

@[simp] theorem Routine.parse_branch (test : Kind → Bool) (a : Routine m) (b : Routine n)
    (s : Descent) :
    (branch test a b).parse s = if test s.kind then a.parse s else b.parse s := by
  rw [Routine.parse, kind_bind]
  split <;> rfl

/-- A rule does its routine one level deeper. -/
theorem parse_eq (r : Rule) : parse r = nonterminal (routine r).parse := by
  have inside {p q : Parse Unit} (h : ∀ s, p s = q s) : nonterminal p = nonterminal q :=
    congrArg nonterminal (funext h)
  cases r with
  | program =>
    refine inside fun s => bind_congr fun m _ => ?_
    rw [kind_bind, Routine.parse_branch]
    by_cases hend : m.kind = .endOfFile <;> simp [hend, Routine.parse]
  | statement => rfl
  | simpleStatement =>
    refine inside fun s => ?_
    rw [kind_bind, routine]
    cases hk : s.kind <;> simp [hk, Routine.parse, Program.parse]
  | expr => rfl
  | term => rfl
  | factor =>
    have hexpr : exprOf factor = expr := rfl
    rw [parse, factor_eq]
    refine inside fun s => ?_
    rw [kind_bind, routine, hexpr]
    cases hk : s.kind <;> simp [hk, Routine.parse, Program.parse]

theorem forward_parse (r : Rule) : Forward (parse r) := by
  cases r with
  | program => exact forward_program
  | statement => exact forward_statement
  | simpleStatement => exact forward_simpleStatement
  | expr => exact forward_expr
  | term => exact forward_term
  | factor => exact forward_factor

theorem consuming_parse {r : Rule} (h : r ≠ .program) : Consuming (parse r) := by
  cases r with
  | program => exact absurd rfl h
  | statement => exact consuming_statement
  | simpleStatement => exact consuming_simpleStatement
  | expr => exact consuming_expr
  | term => exact consuming_term
  | factor => exact consuming_factor

namespace Routine

theorem forward_parse (a : Routine m) : Forward a.parse := by
  induction a with
  | done => exact .pure
  | advance => exact .advance
  | consume kind => exact .consume kind
  | fail expected => exact .fail expected
  | call r _ => exact Program.forward_parse r
  | seq a b iha ihb => exact .bind iha ihb
  | branch test a b iha ihb =>
    refine .kind_bind fun k => ?_
    split
    · exact iha
    · exact ihb
  | loop test a ih => exact .many test ih

/-- The index of a routine tells the truth. -/
theorem consuming_parse (a : Routine m) (h : m = true) : Consuming a.parse := by
  induction a with
  | done | loop => cases h
  | advance => exact .advance
  | consume kind => exact .consume kind
  | fail expected => exact .fail expected
  | call r hr => exact Program.consuming_parse hr
  | @seq m n a b iha ihb =>
    cases m with
    | true => exact .bind (iha rfl) b.forward_parse
    | false => exact .bind_forward a.forward_parse (ihb h)
  | branch test a b iha ihb =>
    rw [Bool.and_eq_true] at h
    refine .kind_bind fun k => ?_
    split
    · exact iha h.1
    · exact ihb h.2

end Routine

end Program

end FrontEnd

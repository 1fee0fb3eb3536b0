-- SUMMARY: Checking a source text: scan, print the trace, parse, report.
import FrontEnd.CommandLine.Options
import FrontEnd.Problem
import FrontEnd.Source.Basic
import FrontEnd.Token.Lexer
import FrontEnd.Trace

/-!
# Checking a source

A source is scanned to its end before it is parsed, so an invalid character
anywhere is reported before any syntax error. The trace lists the tokens up to
the invalid character, and whatever is reported comes after it.
-/

namespace FrontEnd

/-- How a run ends. -/
inductive Exit where
  | success
  | failure
deriving DecidableEq, Repr

/-- The status of the process. -/
def Exit.status : Exit → UInt32
  | success => 0
  | failure => 1

def Exit.ofProblem? : Option Problem → Exit
  | none => success
  | some _ => failure

/-- What is wrong with a scanned text, under a limit on nesting. -/
def Lexed.problem? (x : Lexed) (limit : Nat) : Option Problem :=
  match x.error with
  | some e => some (.lexical e)
  | none =>
    match Program.check limit x.tokens with
    | .ok () => none
    | .error e => some (.syntactic e)

/-- Report a problem of a run in the way that the options ask for. -/
def Problem.report (p : Problem) (o : Options) (terminal : Bool) : Write Unit :=
  p.reported.report o.errorFormat (o.color.enabled terminal)

/-- Report the problem if there is one. -/
def conclude (p : Option Problem) (o : Options) (terminal : Bool) : Write Exit := do
  p.forM (·.report o terminal)
  return Exit.ofProblem? p

/-- Check a source text, with a newline at its end. -/
def checkSource (source : String) (o : Options) (terminal : Bool) : Write Exit := do
  let lexed := Lexed.ofText (Source.completed source)
  if o.trace then
    Trace.write lexed.tokens
  conclude (lexed.problem? o.maxDepth) o terminal

end FrontEnd

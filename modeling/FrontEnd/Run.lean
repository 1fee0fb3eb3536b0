-- SUMMARY: A whole run of the program: from its arguments to its output and exit.
import FrontEnd.Check
import FrontEnd.CharGrammar.Recognition
import FrontEnd.CommandLine.Arguments

/-!
# Runs

A run reads its command line and does what it asks for. Help, descriptions, the
trace and reports go to the output; only a source file that cannot be read is
reported on the error device. When a write fails, the run ends there, says so on
the error device, and counts as a failure.
-/

namespace FrontEnd

/-- Reading a source file by its path. -/
abbrev ReadSource := String → Except ReadFailure String

/-- What is wrong with a string that should be in the language of a grammar. -/
def CharGrammar.problem? (g : CharGrammar) (input : String) : Option Problem :=
  match g.recognize input with
  | .ok () => none
  | .error e => some (.mismatch e)

namespace Run

/-- Run with the given options. -/
def execute (o : Options) (read : ReadSource) (terminal : Bool) : Session Exit :=
  match o.grammar with
  | some g => Session.out (conclude (g.problem? o.input) o terminal)
  | none =>
    match read o.input with
    | .error cause => Session.err (conclude (some (.unreadable ⟨o.input, cause⟩)) o terminal)
    | .ok source => Session.out (checkSource source o terminal)

/-- Do what a command line asks for, or say what is wrong with it. -/
def perform (command : Except UsageError Command) (read : ReadSource) (terminal : Bool) :
    Session Exit :=
  match command with
  | .ok .help => do
    Session.out (Write.put usage)
    return .success
  | .ok (.explain code) => do
    Session.out (Write.putLine (code.text ++ ": " ++ code.description))
    return .success
  | .ok (.run o) => execute o read terminal
  | .error e => do
    Session.out (Write.putLine ("error: " ++ e.message))
    Session.out (Write.put usage)
    return .failure

/-- Tell about a write that failed. Nothing is left to be done when this fails too. -/
def tellFailure (e : WriteFailure) (c : Console) : Console :=
  match Session.err (Write.putLine ("error: cannot write output: " ++ e.reason)) c with
  | .ok () c => c
  | .error _ c => c

end Run

/-- Run the program on its arguments. `terminal` says whether the output is one. -/
def run (args : List String) (read : ReadSource) (terminal : Bool) (console : Console) :
    Exit × Console :=
  match Run.perform (Command.ofArguments args) read terminal console with
  | .ok exit console => (exit, console)
  | .error e console => (.failure, Run.tellFailure e console)

/-- The path of the file that a run on these arguments reads. -/
def Run.sourcePath? (args : List String) : Option String :=
  match Command.ofArguments args with
  | .ok (.run o) => if o.grammar.isNone then some o.input else none
  | _ => none

end FrontEnd

-- SUMMARY: What a command line can ask for, the usage text, and the errors of a command line with their messages.
import FrontEnd.CharGrammar.Basic
import FrontEnd.Diagnostic.Report
import FrontEnd.Program.Descent

/-!
# Options and commands

A command line asks for help, for the description of an error code, or for a run
with some options. It is wrong when it has an option that is not known, a value
that its option does not take, or another number of inputs than one.
-/

namespace FrontEnd

structure Options where
  /-- The path of the source file; with a grammar, the string to recognize. -/
  input : String
  /-- Whether the token trace is printed. -/
  trace : Bool := true
  color : ColorMode := .auto
  errorFormat : ReportFormat := .human
  /-- The limit on open levels of nesting. -/
  maxDepth : Nat := Program.defaultLimit
  /-- The grammar to recognize the input itself with, in place of a source file. -/
  grammar : Option CharGrammar := none
deriving DecidableEq, Repr

inductive Command where
  | help
  | explain (code : Code)
  | run (options : Options)
deriving DecidableEq, Repr

/-- The help text. -/
def usage : String :=
"Usage: mini [options] <file>

Scan and parse a mini source file. Exits 0 if the file parses.

Options:
  --trace                 Print the token trace table (default)
  --no-trace              Do not print the token trace table
  --color=<when>          Color diagnostics: auto, always, never (default: auto)
  --error-format=<fmt>    Diagnostic format: human, json (default: human)
  --max-depth=<n>         Parser nesting limit (default: 1024)
  --grammar=<name>        Recognize <file> as a string with a character
                          grammar instead: ab-cd, anb-c
  --explain=<code>        Describe an error code (e.g. E1001) and exit
  -h, --help              Print this help
"

/-- A value that its option does not take. -/
inductive InvalidValue where
  | color (given : String)
  | errorFormat (given : String)
  | maxDepth (given : String)
  | grammar (given : String)
  | code (given : String)
deriving DecidableEq, Repr

def InvalidValue.message : InvalidValue → String
  | color given => "invalid color mode '" ++ given ++ "' (expected auto, always or never)"
  | errorFormat given => "invalid error format '" ++ given ++ "' (expected human or json)"
  | maxDepth given => "invalid max depth '" ++ given ++ "' (expected a positive integer)"
  | grammar given => "unknown grammar '" ++ given ++ "' (expected ab-cd or anb-c)"
  | code given => "unknown error code '" ++ given ++ "' (codes look like E0001 or E1001)"

inductive UsageError where
  | unknownOption (given : String)
  | invalidValue (value : InvalidValue)
  | missingInput
  | tooManyInputs (count : Nat)
deriving DecidableEq, Repr

def UsageError.message : UsageError → String
  | unknownOption given => "unknown option '" ++ given ++ "'"
  | invalidValue value => value.message
  | missingInput => "missing input file"
  | tooManyInputs count => "expected one input, found " ++ count.repr

end FrontEnd

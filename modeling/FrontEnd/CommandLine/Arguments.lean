-- SUMMARY: Reading a command line argument by argument.
import FrontEnd.CommandLine.Options

/-!
# Arguments

Each argument is read by itself. It asks for something and stops the reading, or
it sets an option, or it is an input. A faulty argument stops the reading too, so
the first argument that stops it decides, whatever comes after. When no argument
does, the last setting of each option counts, and there has to be one input.

An argument that starts with `-` is an option, except `-` itself, which is an
input.
-/

namespace FrontEnd

/-! ## Values -/

def readColor (text : String) : Except InvalidValue ColorMode :=
  match ColorMode.ofName? text with
  | some mode => .ok mode
  | none => .error (.color text)

def readErrorFormat (text : String) : Except InvalidValue ReportFormat :=
  match ReportFormat.ofName? text with
  | some format => .ok format
  | none => .error (.errorFormat text)

def readGrammar (text : String) : Except InvalidValue CharGrammar :=
  match CharGrammar.ofName? text with
  | some grammar => .ok grammar
  | none => .error (.grammar text)

def readCode (text : String) : Except InvalidValue Code :=
  match Code.ofText? text with
  | some code => .ok code
  | none => .error (.code text)

/-- The largest limit that can be asked for, the largest 64-bit word. -/
def largestLimit : Nat := 0xFFFFFFFFFFFFFFFF

/-- The number that a numeral stands for: ASCII digits behind an optional plus sign. -/
def numeral? (text : List Char) : Option Nat :=
  let digits := if text.head? = some '+' then text.tail else text
  if digits ≠ [] ∧ digits.all Char.isDigit then
    some (Nat.ofDigitChars 10 digits 0)
  else none

/-- A positive number up to the largest limit. -/
def readMaxDepth (text : String) : Except InvalidValue Nat :=
  match numeral? text.toList with
  | some n => if 1 ≤ n ∧ n ≤ largestLimit then .ok n else .error (.maxDepth text)
  | none => .error (.maxDepth text)

/-! ## Single arguments -/

/-- A change to one option. -/
inductive Setting where
  | trace (on : Bool)
  | color (mode : ColorMode)
  | errorFormat (format : ReportFormat)
  | maxDepth (limit : Nat)
  | grammar (grammar : CharGrammar)
deriving DecidableEq, Repr

def Setting.apply : Setting → Options → Options
  | trace on, o => { o with trace := on }
  | color mode, o => { o with color := mode }
  | errorFormat format, o => { o with errorFormat := format }
  | maxDepth limit, o => { o with maxDepth := limit }
  | grammar g, o => { o with grammar := some g }

inductive Argument where
  /-- Settles the whole command line. -/
  | stop (answer : Except UsageError Command)
  | set (setting : Setting)
  | input (text : String)

namespace Argument

/-- What follows `key` in an argument that starts with it. -/
def valueOf? (key arg : String) : Option String :=
  if key.toList.isPrefixOf arg.toList then
    some (.ofList (arg.toList.drop key.toList.length))
  else none

/-- The argument that sets an option to a value, or stops at one that the option does not take. -/
def setting (make : α → Setting) : Except InvalidValue α → Argument
  | .ok value => set (make value)
  | .error e => stop (.error (.invalidValue e))

def explain : Except InvalidValue Code → Argument
  | .ok code => stop (.ok (.explain code))
  | .error e => stop (.error (.invalidValue e))

/-- The options without a value. -/
def flags : List (String × Argument) :=
  [("-h", stop (.ok .help)),
   ("--help", stop (.ok .help)),
   ("--trace", set (.trace true)),
   ("--no-trace", set (.trace false))]

/-- The options with a value, by what stands before the value. -/
def keys : List (String × (String → Argument)) :=
  [("--explain=", fun text => explain (readCode text)),
   ("--color=", fun text => setting .color (readColor text)),
   ("--error-format=", fun text => setting .errorFormat (readErrorFormat text)),
   ("--max-depth=", fun text => setting .maxDepth (readMaxDepth text)),
   ("--grammar=", fun text => setting .grammar (readGrammar text))]

/-- Whether an argument that is no known option has the form of one. -/
def looksLikeOption (arg : String) : Bool :=
  arg.toList.head? = some '-' && arg != "-"

def read (arg : String) : Argument :=
  match flags.lookup arg with
  | some argument => argument
  | none =>
    match keys.findSome? fun (key, read) => (valueOf? key arg).map read with
    | some argument => argument
    | none =>
      if looksLikeOption arg then stop (.error (.unknownOption arg)) else input arg

end Argument

/-! ## The whole command line -/

/-- Options over which the settings were made, with the inputs of the command line. -/
def Options.withInputs (o : Options) : List String → Except UsageError Command
  | [] => .error .missingInput
  | [input] => .ok (.run { o with input })
  | inputs => .error (.tooManyInputs inputs.length)

/-- Read the arguments from left to right, after the settings in `o` and the given inputs, latest
first. -/
def Command.read (o : Options) (inputs : List String) : List String → Except UsageError Command
  | [] => o.withInputs inputs.reverse
  | arg :: args =>
    match Argument.read arg with
    | .stop answer => answer
    | .set setting => Command.read (setting.apply o) inputs args
    | .input text => Command.read o (text :: inputs) args

/-- What a command line asks for. The name of the program is not among the arguments. -/
def Command.ofArguments (args : List String) : Except UsageError Command :=
  Command.read { input := "" } [] args

end FrontEnd

-- SUMMARY: The two character grammars, their names, and the ways an input can fail them.
import FrontEnd.Diagnostic.Code

/-!
# Character grammars

Two small languages over single characters, each with one symbol of lookahead.

    ab-cd:  S -> A C      A -> 'a' 'b'      C -> 'c' C | 'd'
    anb-c:  S -> A | 'c'  A -> 'a' { 'a' } 'c' 'b'

The second grammar does not count: one `cb` closes a run of `a`s of any length.
-/

namespace FrontEnd

inductive CharGrammar where
  /-- `ab`, any number of `c`, and `d`. -/
  | abCd
  /-- A lone `c`, or one or more `a` and `cb`. -/
  | anbC
deriving DecidableEq, Repr

namespace CharGrammar

def all : List CharGrammar :=
  [.abCd, .anbC]

def name : CharGrammar → String
  | abCd => "ab-cd"
  | anbC => "anb-c"

def ofName? (text : String) : Option CharGrammar :=
  all.find? (·.name == text)

end CharGrammar

/-- Why an input is not in the language of a grammar. Offsets count characters from the start of the
input, in 64-bit words. -/
inductive Mismatch where
  /-- Something else than `label` was found, or nothing because the input ended. -/
  | expected (label : String) (found : Option Char) (offset : UInt64)
  /-- A string of the language ended before `found`. -/
  | trailing (found : Char) (offset : UInt64)
deriving DecidableEq, Repr

namespace Mismatch

def code : Mismatch → Code
  | expected .. => .unexpectedToken
  | trailing .. => .trailingInput

def message : Mismatch → String
  | expected label _ _ => "expecting " ++ label
  | trailing .. => "garbage following <S>-string"

/-- What was expected, where something was. -/
def label? : Mismatch → Option String
  | expected label _ _ => some label
  | trailing .. => none

/-- The character at the failure, unless the input ended there. -/
def found? : Mismatch → Option Char
  | expected _ found _ => found
  | trailing found _ => some found

def offset : Mismatch → UInt64
  | expected _ _ offset => offset
  | trailing _ offset => offset

end Mismatch

end FrontEnd

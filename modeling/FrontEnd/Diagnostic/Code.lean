-- SUMMARY: The codes of diagnostics, their texts and one-line descriptions.

/-!
# Diagnostic codes

Every diagnostic carries a code. The first digit after the `E` names the phase:
0 for scanning, 1 for parsing, 9 for the program around them.
-/

namespace FrontEnd

inductive Code where
  | invalidCharacter
  | unexpectedToken
  | unexpectedEnd
  | trailingInput
  | nestingTooDeep
  | unreadableSource
deriving DecidableEq, Repr, Inhabited

namespace Code

/-- Every code, in numeric order. -/
def all : List Code :=
  [.invalidCharacter, .unexpectedToken, .unexpectedEnd, .trailingInput, .nestingTooDeep,
   .unreadableSource]

def text : Code → String
  | invalidCharacter => "E0001"
  | unexpectedToken => "E1001"
  | unexpectedEnd => "E1002"
  | trailingInput => "E1003"
  | nestingTooDeep => "E1004"
  | unreadableSource => "E9001"

/-- A one-line summary of what the code reports. -/
def description : Code → String
  | invalidCharacter => "invalid character"
  | unexpectedToken => "unexpected token"
  | unexpectedEnd => "unexpected end of token sequence"
  | trailingInput => "trailing input"
  | nestingTooDeep => "nesting too deep"
  | unreadableSource => "unreadable source"

/-- The code with the given text, in either letter case. The letter of every code is ASCII, and no
other character has it as its upper case. -/
def ofText? (text : String) : Option Code :=
  all.find? (·.text == text.toUpper)

theorem text_of_ofText? {text : String} {code : Code} (h : ofText? text = some code) :
    code.text = text.toUpper := by
  simpa using List.find?_some h

end Code

end FrontEnd

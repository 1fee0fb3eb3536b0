-- SUMMARY: Diagnostics: what is reported about an error, and its plain text.
import FrontEnd.Diagnostic.Code
import FrontEnd.Text.Escape
import FrontEnd.Token.Basic

/-!
# Diagnostics

A diagnostic has a code and a message, mostly a location, and notes. Every
diagnostic is about an error, so there is no severity. The location keeps the
lexeme as it stands in the source; whoever shows it escapes it.
-/

namespace FrontEnd

/-- A lexeme and where it stands. -/
structure Location where
  lexeme : String
  position : Position
deriving DecidableEq, Repr

def Location.ofToken (t : Token) : Location :=
  ⟨t.lexeme, t.position⟩

structure Diagnostic where
  code : Code
  message : String := ""
  location : Option Location := none
  /-- More lines of context, in order. -/
  notes : List String := []
deriving DecidableEq, Repr

namespace Diagnostic

def locatedAt (d : Diagnostic) (location : Location) : Diagnostic :=
  { d with location := some location }

def atToken (d : Diagnostic) (t : Token) : Diagnostic :=
  d.locatedAt (.ofToken t)

/-- The diagnostic with one more note. -/
def withNote (d : Diagnostic) (note : String) : Diagnostic :=
  { d with notes := d.notes ++ [note] }

/-- The line that names the location, where there is one. -/
def locationLine (d : Diagnostic) : Option String :=
  d.location.map fun l =>
    "Error on '" ++ Text.escape l.lexeme ++ "' " ++ l.position.describe

/-- The line that names the error. -/
def errorLine (d : Diagnostic) : String :=
  "error[" ++ d.code.text ++ "]: " ++ d.message

/-- The diagnostic as plain text, without its notes. -/
def display (d : Diagnostic) : String :=
  match d.locationLine with
  | some line => line ++ "\n" ++ d.errorLine
  | none => d.errorLine

end Diagnostic

end FrontEnd

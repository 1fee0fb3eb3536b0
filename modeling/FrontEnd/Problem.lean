-- SUMMARY: Everything that can be wrong with an input, and the diagnostic for it.
import FrontEnd.CharGrammar.Basic
import FrontEnd.Diagnostic.Basic
import FrontEnd.Program.SyntaxError
import FrontEnd.Token.Basic

/-!
# Problems

A run fails on its input in one of four ways, by how far it came: the file
cannot be read, a character starts no token, the tokens are no program, or the
string is not in the language of the character grammar. A file that cannot be read
is never taken for an empty one; the usual causes have words of their own, and any
other cause is told in the words of the system.

Each problem has one diagnostic, with one exception. The column of a mismatch is
the successor of its offset, and the last offset has none. There the addition
overflows, which ends the program before there is a diagnostic, so `toDiagnostic?`
has no value. No input is so long that one of its characters has the last offset.
So the mismatch of a run has a diagnostic, and that is what the run reports
(`Problem.reported`).
-/

namespace FrontEnd

inductive ReadFailure where
  | notFound
  | permissionDenied
  | invalidUtf8
  | other (reason : String)
deriving DecidableEq, Repr

/-- A file that could not be read, by the path that it was asked for with. -/
structure Unreadable where
  path : String
  cause : ReadFailure
deriving DecidableEq, Repr

def Unreadable.message (e : Unreadable) : String :=
  match e.cause with
  | .notFound => "cannot find file '" ++ e.path ++ "'"
  | .permissionDenied => "permission denied reading '" ++ e.path ++ "'"
  | .invalidUtf8 => "'" ++ e.path ++ "' contains invalid UTF-8 data"
  | .other reason => "error reading '" ++ e.path ++ "': " ++ reason

/-- The text of a file with the given bytes. -/
def decodeSource (bytes : ByteArray) : Except ReadFailure String :=
  match String.fromUTF8? bytes with
  | some text => .ok text
  | none => .error .invalidUtf8

def Unreadable.toDiagnostic (e : Unreadable) : Diagnostic where
  code := .unreadableSource
  message := e.message

def InvalidCharacter.toDiagnostic (e : InvalidCharacter) : Diagnostic where
  code := .invalidCharacter
  message := "invalid token"
  location := some (.ofToken e.token)
  notes := [Text.quoteChar e.found ++ " does not start any token"]

/-- The note of a syntax error, where it has one. -/
def SyntaxError.notes : SyntaxError → List String
  | unexpectedToken _ found => ["found " ++ found.kind.displayName]
  | unexpectedEnd _ => ["the token list ended without an end-of-file token"]
  | nestingTooDeep .. => []

def SyntaxError.toDiagnostic (e : SyntaxError) : Diagnostic where
  code := e.code
  message := e.message
  location := e.token?.map .ofToken
  notes := e.notes

namespace Mismatch

/-- The largest column. -/
def lastColumn : UInt32 := 0xFFFFFFFF

/-- The largest offset. -/
def lastOffset : UInt64 := 0xFFFFFFFFFFFFFFFF

/-- The next offset. The addition overflows at the last one. -/
def successor? (offset : UInt64) : Option UInt64 :=
  if offset = lastOffset then none else some (offset + 1)

/-- The column of a failure: the successor of its offset, or the last column when that does not
fit. -/
def column? (e : Mismatch) : Option UInt32 := do
  let column ← successor? e.offset
  return if column ≤ lastColumn.toUInt64 then column.toUInt32 else lastColumn

def notes : Mismatch → List String
  | expected _ none _ => ["found end of input"]
  | expected _ (some c) _ => ["found " ++ Text.quoteChar c]
  | trailing .. => []

/-- The character at the failure, or nothing at the end of the input. -/
def lexeme (e : Mismatch) : String :=
  (e.found?.map Char.toString).getD ""

/-- The diagnostic at a column. The input is a single line. -/
def diagnosticAt (e : Mismatch) (column : UInt32) : Diagnostic where
  code := e.code
  message := e.message
  location := some ⟨e.lexeme, ⟨1, column⟩⟩
  notes := e.notes

/-- The diagnostic at the column of the failure. -/
def toDiagnostic? (e : Mismatch) : Option Diagnostic :=
  e.column?.map e.diagnosticAt

end Mismatch

inductive Problem where
  | unreadable (error : Unreadable)
  | lexical (error : InvalidCharacter)
  | syntactic (error : SyntaxError)
  | mismatch (error : Mismatch)
deriving DecidableEq, Repr

namespace Problem

def message : Problem → String
  | unreadable e => e.message
  | lexical e => e.message
  | syntactic e => e.message
  | mismatch e => e.message

def toDiagnostic? : Problem → Option Diagnostic
  | unreadable e => some e.toDiagnostic
  | lexical e => some e.toDiagnostic
  | syntactic e => some e.toDiagnostic
  | mismatch e => e.toDiagnostic?

/-- The diagnostic that a run reports. The column that is given to a mismatch without one is not
seen in any report of a run. -/
def reported : Problem → Diagnostic
  | unreadable e => e.toDiagnostic
  | lexical e => e.toDiagnostic
  | syntactic e => e.toDiagnostic
  | mismatch e => e.diagnosticAt (e.column?.getD Mismatch.lastColumn)

end Problem

end FrontEnd

-- SUMMARY: Diagnostics as a JSON array, written one after the other.
import FrontEnd.Diagnostic.Basic
import FrontEnd.Output.Device
import FrontEnd.Text.Quoted

/-!
# Diagnostics as JSON

The diagnostics are the elements of an array, each an object with the members
`code`, `message`, `lexeme`, `line`, `column` and `notes`, in this order. Without
a location the three members in the middle are null.

The array is written as it grows: `start`, `add` for each diagnostic, `finish`.
A comma stands in front of every element but the first, so the writer keeps
whether it has begun an element. It has done so also when the element could not
be written to its end.
-/

namespace FrontEnd

/-- An array on a device. -/
structure JsonArray where
  device : Device
  /-- Whether no element was begun yet. -/
  isEmpty : Bool := true

namespace JsonArray

abbrev Action := EStateM WriteFailure JsonArray Unit

/-- Write to the device of the array. -/
def onDevice (w : Write Unit) : Action := fun a =>
  match w a.device with
  | .ok () device => .ok () { a with device }
  | .error e device => .error e { a with device }

def start : Action :=
  onDevice (Write.putLine "[")

def finish : Action := do
  onDevice (Write.putLine (if (← get).isEmpty then "]" else "\n]"))

/-- A member of an element, with its comma. -/
def writeMember (name value : String) : Write Unit :=
  Write.putLine ("    \"" ++ name ++ "\": " ++ value ++ ",")

def writeLocation (location : Option Location) : Write Unit := do
  let value (f : Location → String) := (location.map f).getD "null"
  writeMember "lexeme" (value (Text.jsonString ·.lexeme))
  writeMember "line" (value (·.position.line.toNat.repr))
  writeMember "column" (value (·.position.column.toNat.repr))

def writeNotes (notes : List String) : Write Unit :=
  Write.putLine ("    \"notes\": [" ++ ", ".intercalate (notes.map Text.jsonString) ++ "]")

/-- A diagnostic as an object. -/
def writeElement (d : Diagnostic) : Write Unit := do
  Write.putLine "  \x7b"
  writeMember "code" ("\"" ++ d.code.text ++ "\"")
  writeMember "message" (Text.jsonString d.message)
  writeLocation d.location
  writeNotes d.notes
  Write.put "  \x7d"

def add (d : Diagnostic) : Action := do
  unless (← get).isEmpty do
    onDevice (Write.putLine ",")
  modify ({ · with isEmpty := false })
  onDevice (writeElement d)

def flush : Action :=
  onDevice Write.flush

/-- Write a whole array to a device. -/
def write (ds : List Diagnostic) : Write Unit := fun device =>
  let action : Action := do
    start
    ds.forM add
    finish
    flush
  match action { device } with
  | .ok () a => .ok () a.device
  | .error e a => .error e a.device

end JsonArray

end FrontEnd

-- SUMMARY: A diagnostic in the format that the user chose.
import FrontEnd.Diagnostic.JsonArray
import FrontEnd.Diagnostic.Terminal

/-!
# Reports

A run reports at most one diagnostic. For people it is set off by a blank line
from what was written before; for programs it is an array with one element.
-/

namespace FrontEnd

inductive ReportFormat where
  | human
  | json
deriving DecidableEq, Repr, Inhabited

namespace ReportFormat

def all : List ReportFormat :=
  [.human, .json]

def name : ReportFormat → String
  | human => "human"
  | json => "json"

def ofName? (text : String) : Option ReportFormat :=
  all.find? (·.name == text)

end ReportFormat

/-- Write a diagnostic. Only the format for people has colors. -/
def Diagnostic.report (d : Diagnostic) (format : ReportFormat) (colors : Bool) : Write Unit :=
  match format with
  | .human => do
    Write.put "\n"
    Terminal.emit colors d
    Write.flush
  | .json => JsonArray.write [d]

end FrontEnd

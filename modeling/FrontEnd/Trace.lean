-- SUMMARY: The table of tokens that a run prints.
import FrontEnd.Output.Device
import FrontEnd.Token.Basic

/-!
# The trace table

    Line   Col  Category       Lexeme

    1      1    NAME           x
    1      3    ASSIGNOP       =

One row per token, in columns of fixed width. A cell is padded on the right with
spaces to the width of its column. Widths count characters. A cell that is too
wide is written whole and pushes the rest of its row to the right.
-/

namespace FrontEnd

namespace Text

/-- `text` padded with spaces to `width` characters. -/
def padRight (width : Nat) (text : String) : String :=
  .ofList (text.toList.rightpad width ' ')

@[simp] theorem toList_padRight (width : Nat) (text : String) :
    (padRight width text).toList = text.toList ++ List.replicate (width - text.length) ' ' := by
  simp [padRight, List.rightpad, String.length_toList]

theorem length_padRight (width : Nat) (text : String) :
    (padRight width text).length = max width text.length := by
  simp only [← String.length_toList, toList_padRight, List.length_append, List.length_replicate]
  omega

end Text

namespace Trace

def header : String := "Line   Col  Category       Lexeme"

def lineWidth : Nat := 7
def columnWidth : Nat := 5
def kindWidth : Nat := 15
def lexemeWidth : Nat := 10

/-- The row of a token. -/
def row (t : Token) : String :=
  Text.padRight lineWidth t.position.line.toNat.repr
    ++ Text.padRight columnWidth t.position.column.toNat.repr
    ++ Text.padRight kindWidth t.kind.displayName
    ++ Text.padRight lexemeWidth (Text.escape t.lexeme)

/-- The header has a blank line below it. -/
def writeHeader : Write Unit := do
  Write.putLine header
  Write.put "\n"

def writeRow (t : Token) : Write Unit :=
  Write.putLine (row t)

def write (ts : Tokens) : Write Unit := do
  writeHeader
  ts.forM writeRow

end Trace

end FrontEnd

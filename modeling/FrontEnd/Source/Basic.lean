-- SUMMARY: Source texts: positions of their characters, and the newline at their end.

/-!
# Source texts

A position is a line and a column, both counted from one. Columns count
characters, so a character takes one column however many bytes it has. Both are
32-bit words.

A statement ends with a newline, so a text whose last line lacks one is given
it. The empty text becomes a single newline.
-/

namespace FrontEnd

/-- A place in a source text. The default stands before the first line. -/
structure Position where
  line : UInt32 := 0
  column : UInt32 := 0
deriving DecidableEq, Repr, Inhabited

namespace Position

/-- The position in prose, as diagnostics show it. -/
def describe (p : Position) : String :=
  "line " ++ p.line.toNat.repr ++ " column " ++ p.column.toNat.repr

/-- The position in short, as listings show it. -/
def brief (p : Position) : String :=
  p.line.toNat.repr ++ ":" ++ p.column.toNat.repr

/-- Positions follow the text: lines first, then columns. -/
def compare (p q : Position) : Ordering :=
  (Ord.compare p.line q.line).then (Ord.compare p.column q.column)

end Position

namespace Source

/-- Whether the text ends with a newline. -/
def endsLine (text : String) : Bool :=
  text.toList.getLast? == some '\n'

/-- The text with a newline at its end, the one it has or a new one. -/
def completed (text : String) : String :=
  if endsLine text then text else text.push '\n'

theorem completed_of_endsLine {text : String} (h : endsLine text = true) :
    completed text = text := by
  simp [completed, h]

theorem toList_completed (text : String) :
    (completed text).toList = if endsLine text then text.toList else text.toList ++ ['\n'] := by
  unfold completed; split <;> simp

theorem endsLine_completed (text : String) : endsLine (completed text) = true := by
  rw [endsLine, toList_completed]
  split
  · assumption
  · simp

end Source

end FrontEnd

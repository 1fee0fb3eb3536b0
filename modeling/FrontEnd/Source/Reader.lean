-- SUMMARY: Reading a source text character by character, with positions and the treatment of blank lines.
import FrontEnd.Source.Basic
import FrontEnd.Unicode.Basic

/-!
# Readers

A `Reader` hands out the characters of a text one at a time and knows where each
stands.

* The line count goes up at the read after a newline and not at the newline, so
  that the newline still belongs to its line. A new reader stands as if a newline
  had just been read; the first character is at line 1, column 1.
* A newline that ends a line of nothing but white space is handed out as a space.
  So blank lines leave no trace in what is made of the characters.
* At the end of the text every read returns `none` and stays at column 1 of the
  last line.
* Lines and columns are 32-bit words, and counting is that of a build without
  overflow checks: behind the largest word it goes on at zero. A build with checks
  stops there instead, in a text with more lines, or a line with more characters,
  than there are words.
-/

namespace FrontEnd

open Unicode

structure Reader where
  /-- The characters not yet read. -/
  rest : List Char
  /-- Where the last read was. -/
  position : Position := {}
  /-- Whether the last read took a newline, so that the next one starts a line. -/
  lineEnded : Bool := true
  /-- Whether the line has held only white space so far. -/
  blankLine : Bool := true

namespace Reader

def ofText (text : String) : Reader where
  rest := text.toList

/-- The reader on the line of its next character. The line behind the largest one is line 0; with
overflow checks the program stops. -/
def onLine (r : Reader) : Reader :=
  if r.lineEnded then
    { r with position := ⟨r.position.line + 1, 0⟩, lineEnded := false, blankLine := true }
  else r

@[simp] theorem rest_onLine (r : Reader) : r.onLine.rest = r.rest := by
  unfold onLine; split <;> rfl

@[simp] theorem lineEnded_onLine (r : Reader) : r.onLine.lineEnded = false := by
  unfold onLine; split <;> simp_all

/-- Read one character. The column behind the largest one is column 0; with overflow checks the
program stops. -/
def next (r : Reader) : Option Char × Reader :=
  match r.rest with
  | [] => (none, { r.onLine with position := ⟨r.onLine.position.line, 1⟩ })
  | c :: rest =>
    let blank := r.onLine.blankLine && isWhiteSpace c
    let position := ⟨r.onLine.position.line, r.onLine.position.column + 1⟩
    (some (if c = '\n' && blank then ' ' else c),
      { rest, position, lineEnded := c = '\n', blankLine := blank })

@[simp] theorem rest_next (r : Reader) : r.next.2.rest = r.rest.tail := by
  cases h : r.rest <;> simp [next, h]

/-- A read returns nothing exactly at the end of the text. -/
theorem next_fst_eq_none_iff (r : Reader) : r.next.1 = none ↔ r.rest = [] := by
  cases h : r.rest <;> simp [next, h]

end Reader

/-- A character and where it stands. -/
structure Located where
  char : Char
  position : Position
deriving DecidableEq, Repr

namespace Reader

/-- The loop of `drain`: at most `n` more reads, after those in `seen`, latest first. -/
def drainInto (seen : List Located) : Nat → Reader → List Located × Reader
  | 0, r => (seen.reverse, r.next.2)
  | n + 1, r =>
    match r.next with
    | (none, r) => (seen.reverse, r)
    | (some c, r) => drainInto (⟨c, r.position⟩ :: seen) n r

/-- Read to the end: the characters, and the reader after the read that returned nothing. -/
def drain (r : Reader) : List Located × Reader :=
  drainInto [] r.rest.length r

/-- What was read before stays in front. -/
theorem drainInto_eq (seen : List Located) (n : Nat) (r : Reader) :
    drainInto seen n r = (seen.reverse ++ (drainInto [] n r).1, (drainInto [] n r).2) := by
  induction n generalizing seen r with
  | zero => simp [drainInto]
  | succ n ih =>
    cases h : r.next with
    | mk c r' =>
      cases c with
      | none => simp [drainInto, h]
      | some c =>
        simp only [drainInto, h]
        rw [ih (⟨c, r'.position⟩ :: seen), ih [⟨c, r'.position⟩]]
        simp

theorem drain_nil {r : Reader} (h : r.rest = []) : r.drain = ([], r.next.2) := by
  simp [drain, drainInto, h]

theorem drain_cons {r r' : Reader} {c : Char} (h : r.next = (some c, r')) :
    r.drain = (⟨c, r'.position⟩ :: r'.drain.1, r'.drain.2) := by
  have rest : r'.rest = r.rest.tail := by rw [← rest_next, h]
  cases hr : r.rest with
  | nil =>
    have none := (next_fst_eq_none_iff r).2 hr
    simp [h] at none
  | cons d ds =>
    rw [hr, List.tail_cons] at rest
    simp only [drain, hr, List.length_cons, drainInto, h, rest]
    rw [drainInto_eq]
    simp

end Reader

end FrontEnd

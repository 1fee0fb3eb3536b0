-- SUMMARY: Recognition of a string by a character grammar, with the offset of the first failure.
import FrontEnd.CharGrammar.Basic

/-!
# Recognition by character grammars

An input is read from left to right and the first character that does not fit
ends the reading. An input that goes on after a whole string of the language has
trailing input.

Offsets are counted in 64-bit words. An input that is held in memory has fewer
characters than there are words, so counting does not overflow.
-/

namespace FrontEnd.CharGrammar

/-- What is left of an input, and how many characters came before. -/
structure Remaining where
  chars : List Char
  offset : UInt64 := 0
deriving DecidableEq, Repr

namespace Remaining

/-- The failure to find `label` here. -/
def unexpected (r : Remaining) (label : String) : Mismatch :=
  .expected label r.chars.head? r.offset

/-- Read the character `c`. -/
def expect (r : Remaining) (c : Char) : Except Mismatch Remaining :=
  match r.chars with
  | [] => .error (r.unexpected c.toString)
  | d :: chars =>
    if d = c then .ok ⟨chars, r.offset + 1⟩ else .error (r.unexpected c.toString)

/-- Read as many `c` as there are. -/
def skipRun (c : Char) : List Char → UInt64 → Remaining
  | [], offset => ⟨[], offset⟩
  | d :: chars, offset =>
    if d = c then skipRun c chars (offset + 1) else ⟨d :: chars, offset⟩

/-- The input has to end here. -/
def finish (r : Remaining) : Except Mismatch Unit :=
  match r.chars with
  | [] => .ok ()
  | found :: _ => .error (.trailing found r.offset)

end Remaining

/-- The rule `C` of `ab-cd`: any number of `c`, then `d`. -/
def closing : List Char → UInt64 → Except Mismatch Remaining
  | [], offset => .error (.expected "c or d" none offset)
  | c :: chars, offset =>
    if c = 'c' then closing chars (offset + 1)
    else if c = 'd' then .ok ⟨chars, offset + 1⟩
    else .error (.expected "c or d" (some c) offset)

/-- The start symbol of `ab-cd`. -/
def abCdString (r : Remaining) : Except Mismatch Remaining := do
  let r ← r.expect 'a'
  let r ← r.expect 'b'
  closing r.chars r.offset

/-- The start symbol of `anb-c`. -/
def anbCString (r : Remaining) : Except Mismatch Remaining :=
  match r.chars with
  | 'a' :: _ => do
    let r ← (Remaining.skipRun 'a' r.chars r.offset).expect 'c'
    r.expect 'b'
  | 'c' :: chars => .ok ⟨chars, r.offset + 1⟩
  | _ => .error (r.unexpected "a or c")

/-- Whether the whole input is in the language of `g`, or else the first failure. -/
def recognize (g : CharGrammar) (input : String) : Except Mismatch Unit := do
  let start : Remaining := { chars := input.toList }
  let r ← match g with
    | abCd => abCdString start
    | anbC => anbCString start
  r.finish

end FrontEnd.CharGrammar

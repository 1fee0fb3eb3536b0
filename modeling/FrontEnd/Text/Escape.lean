-- SUMMARY: Escaped text: control characters as visible escapes, all else as it is.
import FrontEnd.Unicode.Basic

/-!
# Escaped text

A lexeme is shown on one line of a terminal, so its control characters are
written as escapes: newline, carriage return, tab and NUL as a backslash and one
letter, the others by their code point in braces. A backslash stands for itself,
so the escaped text is for reading and is not meant to be read back.
-/

namespace FrontEnd.Text

open Unicode

/-- The code point of `c` in base sixteen, in lower case and without leading zeros. -/
def hexDigits (c : Char) : List Char :=
  Nat.toDigits 16 c.toNat

/-- The escape of a character by its code point in braces. -/
def bracedCode (c : Char) : List Char :=
  ['\\', 'u', '{'] ++ hexDigits c ++ ['}']

/-- A character as escaped text shows it. -/
def escapeChar (c : Char) : List Char :=
  if c = '\n' then ['\\', 'n']
  else if c = '\r' then ['\\', 'r']
  else if c = '\t' then ['\\', 't']
  else if c = '\x00' then ['\\', '0']
  else if isControl c then bracedCode c
  else [c]

/-- The text with every control character escaped. -/
def escape (text : String) : String :=
  .ofList (text.toList.flatMap escapeChar)

@[simp] theorem toList_escape (text : String) :
    (escape text).toList = text.toList.flatMap escapeChar := by
  simp [escape]

theorem escapeChar_of_not_isControl {c : Char} (h : isControl c = false) : escapeChar c = [c] := by
  have plain : ∀ d, isControl d = true → c ≠ d := fun d hd hc => by simp [hc, hd] at h
  simp [escapeChar, h, plain '\n' (by decide), plain '\r' (by decide), plain '\t' (by decide),
    plain '\x00' (by decide)]

end FrontEnd.Text

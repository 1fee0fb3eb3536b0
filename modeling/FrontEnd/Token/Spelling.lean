-- SUMMARY: How tokens are spelled: character classes, one-character tokens and the reserved word.
import FrontEnd.Token.Kind
import FrontEnd.Unicode.Numeric
import FrontEnd.Unicode.Basic

/-!
# Spelling

The first character of a token settles how it goes on.

* An ASCII digit starts a number, which is a run of ASCII digits.
* An alphabetic character or `_` starts a word, which goes on with alphanumeric
  characters and `_`. Digits and numbers of any script may stand inside a word
  but do not start a token. The word `print` is reserved; every other word is a
  name.
* Seven characters, the newline among them, are tokens by themselves.
-/

namespace FrontEnd

open Unicode

/-- White space that separates tokens: all but the newline, which is a token. -/
def isSpacing (c : Char) : Bool :=
  isWhiteSpace c && c != '\n'

def isWordStart (c : Char) : Bool :=
  isAlphabetic c || c = '_'

def isWordPart (c : Char) : Bool :=
  isAlphanumeric c || c = '_'

theorem isWordPart_of_isWordStart {c : Char} (h : isWordStart c = true) : isWordPart c = true := by
  simp only [isWordStart, isWordPart, isAlphanumeric, Bool.or_eq_true] at h ⊢
  exact h.imp_left .inl

theorem isWordPart_of_isDigit {c : Char} (h : c.isDigit = true) : isWordPart c = true := by
  simp [isWordPart, isAlphanumeric_of_isDigit h]

namespace Kind

/-- The kind of the token that a character is by itself. -/
def ofSymbol? : Char → Option Kind
  | '=' => some assign
  | '(' => some leftParen
  | ')' => some rightParen
  | '+' => some plus
  | '-' => some minus
  | '*' => some times
  | '\n' => some newline
  | _ => none

/-- The kind of a word. -/
def ofWord (word : String) : Kind :=
  if word = "print" then print else name

theorem ofWord_eq_print_iff {word : String} : ofWord word = .print ↔ word = "print" := by
  unfold ofWord; split <;> simp_all

end Kind

end FrontEnd

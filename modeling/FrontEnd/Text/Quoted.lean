-- SUMMARY: Characters and texts between quotes, in messages and listings and as string literals of JSON.
import FrontEnd.Text.Escape
import FrontEnd.Unicode.GraphemeExtend
import FrontEnd.Unicode.Printable

/-!
# Quoted text

A message that names a character of the source shows it between single quotes;
a listing of tokens shows a lexeme between double quotes. Between the quotes a
backslash and the quote itself are escaped, NUL, tab, carriage return and
newline have their two-character escapes, and a character that would not be seen
on its own (an extending or an unprintable one) is written by its code point.
The quote of the other kind stands for itself.

A string literal of JSON escapes the double quote, the backslash and every
control character. Newline, carriage return and tab have their short escapes;
the other controls are written by their code point with four digits, which is
enough for all of them.
-/

namespace FrontEnd.Text

open Unicode

/-- A character as it stands between two `delimiter`s. -/
def quotedChar (delimiter c : Char) : List Char :=
  if c = '\x00' then ['\\', '0']
  else if c = '\t' then ['\\', 't']
  else if c = '\r' then ['\\', 'r']
  else if c = '\n' then ['\\', 'n']
  else if c = '\\' || c = delimiter then ['\\', c]
  else if isGraphemeExtend c || !isPrintable c then bracedCode c
  else [c]

/-- A character between single quotes. -/
def quoteChar (c : Char) : String :=
  .ofList (['\''] ++ quotedChar '\'' c ++ ['\''])

/-- A text between double quotes. -/
def quote (text : String) : String :=
  .ofList (['"'] ++ text.toList.flatMap (quotedChar '"') ++ ['"'])

@[simp] theorem toList_quoteChar (c : Char) :
    (quoteChar c).toList = '\'' :: (quotedChar '\'' c ++ ['\'']) := by
  simp [quoteChar]

/-- The escape of a control character by four digits in base sixteen. -/
def fourDigitCode (c : Char) : List Char :=
  ['\\', 'u'] ++ (hexDigits c).leftpad 4 '0'

/-- A character as it stands in a string literal. -/
def jsonChar (c : Char) : List Char :=
  if c = '"' then ['\\', '"']
  else if c = '\\' then ['\\', '\\']
  else if c = '\n' then ['\\', 'n']
  else if c = '\r' then ['\\', 'r']
  else if c = '\t' then ['\\', 't']
  else if isControl c then fourDigitCode c
  else [c]

/-- The string literal of `text`, with its quotes. -/
def jsonString (text : String) : String :=
  .ofList (['"'] ++ text.toList.flatMap jsonChar ++ ['"'])

@[simp] theorem toList_jsonString (text : String) :
    (jsonString text).toList = '"' :: (text.toList.flatMap jsonChar ++ ['"']) := by
  simp [jsonString]

end FrontEnd.Text

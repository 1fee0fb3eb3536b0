-- SUMMARY: Diagnostics on a terminal, with colors or without.
import FrontEnd.Diagnostic.Basic
import FrontEnd.Output.Device

/-!
# Diagnostics on a terminal

    Error on '1' line 1 column 7
    error[E1001]: expecting LEFTPAREN
      = note: found UNSIGNEDINT

The lexeme, the code and the labels can be colored. Colors are escape sequences
around the text that they color and change nothing else.
-/

namespace FrontEnd

/-- When to use colors. -/
inductive ColorMode where
  /-- On a terminal only. -/
  | auto
  | always
  | never
deriving DecidableEq, Repr, Inhabited

namespace ColorMode

def all : List ColorMode :=
  [.auto, .always, .never]

def name : ColorMode → String
  | auto => "auto"
  | always => "always"
  | never => "never"

def ofName? (text : String) : Option ColorMode :=
  all.find? (·.name == text)

/-- Whether colors are used on a device that is a terminal or is not. -/
def enabled (terminal : Bool) : ColorMode → Bool
  | auto => terminal
  | always => true
  | never => false

end ColorMode

namespace Terminal

/-- What is colored. -/
inductive Style where
  | error
  | note
  | bold
deriving DecidableEq, Repr

/-- The sequence that turns a style on: bold red, bold cyan, or bold. -/
def Style.sequence : Style → String
  | error => "\x1b[1;31m"
  | note => "\x1b[1;36m"
  | bold => "\x1b[1m"

/-- The sequence that turns every style off. -/
def reset : String := "\x1b[0m"

/-- `text` in a style, or plain when colors are off. -/
def paint (colors : Bool) (style : Style) (text : String) : Write Unit :=
  if colors then do
    Write.put style.sequence
    Write.put text
    Write.put reset
  else
    Write.put text

def writeLocation (colors : Bool) (location : Location) : Write Unit := do
  Write.put "Error on '"
  paint colors .bold (Text.escape location.lexeme)
  Write.putLine ("' " ++ location.position.describe)

def writeNote (colors : Bool) (note : String) : Write Unit := do
  Write.put "  = "
  paint colors .note "note"
  Write.putLine (": " ++ note)

def emit (colors : Bool) (d : Diagnostic) : Write Unit := do
  d.location.forM (writeLocation colors)
  paint colors .error "error"
  paint colors .bold ("[" ++ d.code.text ++ "]")
  Write.putLine (": " ++ d.message)
  d.notes.forM (writeNote colors)

end Terminal

end FrontEnd

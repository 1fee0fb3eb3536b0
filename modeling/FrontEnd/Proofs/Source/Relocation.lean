-- SUMMARY: The same at other positions: tokens, errors and problems with their positions changed.
import FrontEnd.Check
import FrontEnd.Proofs.Program.Locality

/-!
# Relocation

What is made of a text carries positions along and never looks at them. To say
so, everything that has positions can be given others, `Position.down` some
lines further down and `Position.onLine` on another line.
-/

namespace FrontEnd

variable (f : Position → Position)

namespace Position

/-- The position `n` lines further down. -/
def down (n : Nat) (p : Position) : Position :=
  ⟨p.line + UInt32.ofNat n, p.column⟩

/-- The position in the same column of another line. -/
def onLine (line : UInt32) (p : Position) : Position :=
  ⟨line, p.column⟩

@[simp] theorem down_zero (p : Position) : p.down 0 = p := by
  simp [down]

theorem down_down (m n : Nat) (p : Position) : (p.down m).down n = p.down (m + n) := by
  simp [down, UInt32.add_assoc, UInt32.ofNat_add]

theorem onLine_eq_self {line : UInt32} {p : Position} (h : p.line = line) :
    p.onLine line = p := by
  subst h
  rfl

end Position

def Located.relocate (x : Located) : Located :=
  { x with position := f x.position }

@[simp] theorem Located.char_relocate (x : Located) : (x.relocate f).char = x.char := rfl
@[simp] theorem Located.position_relocate (x : Located) :
    (x.relocate f).position = f x.position := rfl

def Token.relocate (t : Token) : Token :=
  { t with position := f t.position }

@[simp] theorem Token.kind_relocate (t : Token) : (t.relocate f).kind = t.kind := rfl

@[simp] theorem Token.relocate_id : Token.relocate id = id := rfl

@[simp] theorem Token.relocate_endOfFile (p : Position) :
    (Token.endOfFile p).relocate f = .endOfFile (f p) := rfl

/-- Tokens in the same order at other positions. -/
def Tokens.relocate (ts : Tokens) : Tokens :=
  ts.map (Token.relocate f)

@[simp] theorem Tokens.relocate_append (ts us : Tokens) :
    relocate f (ts ++ us) = relocate f ts ++ relocate f us :=
  List.map_append

@[simp] theorem Tokens.relocate_id (ts : Tokens) : relocate id ts = ts := by
  simp [relocate]

@[simp] theorem Tokens.kinds_relocate (ts : Tokens) : (relocate f ts).kinds = ts.kinds := by
  simp [kinds, relocate, Function.comp_def]

def InvalidCharacter.relocate (e : InvalidCharacter) : InvalidCharacter :=
  { e with position := f e.position }

def SyntaxError.relocate : SyntaxError → SyntaxError
  | unexpectedToken x t => .unexpectedToken x (t.relocate f)
  | unexpectedEnd last => .unexpectedEnd (last.map (Token.relocate f))
  | nestingTooDeep limit t => .nestingTooDeep limit (t.relocate f)

@[simp] theorem SyntaxError.relocate_id (e : SyntaxError) : e.relocate id = e := by
  cases e <;> simp [relocate]

theorem SyntaxError.relocate_at (e : SyntaxError) (t : Token) :
    (e.at t).relocate f = e.at (t.relocate f) := by
  cases e <;> rfl

/-- Only problems with a text have positions in it. -/
def Problem.relocate : Problem → Problem
  | lexical e => .lexical (e.relocate f)
  | syntactic e => .syntactic (e.relocate f)
  | p => p

@[simp] theorem Problem.relocate_id (p : Problem) : p.relocate id = p := by
  cases p <;> simp [relocate, InvalidCharacter.relocate]

theorem Token.relocate_relocate (f g : Position → Position) (t : Token) :
    (t.relocate f).relocate g = t.relocate (g ∘ f) := rfl

theorem Problem.relocate_relocate (f g : Position → Position) (p : Problem) :
    (p.relocate f).relocate g = p.relocate (g ∘ f) := by
  cases p with
  | syntactic e =>
    cases e with
    | unexpectedEnd last => cases last <;> rfl
    | unexpectedToken | nestingTooDeep => rfl
  | unreadable | lexical | mismatch => rfl

def Lexed.relocate (x : Lexed) : Lexed where
  tokens := x.tokens.relocate f
  error := x.error.map (InvalidCharacter.relocate f)

end FrontEnd

-- SUMMARY: The JSON texts and the values they denote, after RFC 8259.

/-!
# JSON texts

A JSON text is a value with blanks around it. The relations below follow the
grammar of RFC 8259 rule by rule and say, beside how a text is spelled, what it
denotes.

Numbers are rational, so `10`, `1e1` and `10.0` denote the same. Strings are made
of characters, so half of a surrogate pair without its other half denotes
nothing. An object keeps its members in textual order, repeated names included.
-/

namespace FrontEnd.Json

inductive Value where
  | null
  | bool (b : Bool)
  | number (q : Rat)
  | string (s : String)
  | array (vs : List Value)
  | object (members : List (String × Value))

-- ---------------------------------------------------------------------------
-- Blanks and numbers
-- ---------------------------------------------------------------------------

/-- The whitespace of JSON, which is less than the whitespace of Unicode. -/
def isBlank (c : Char) : Bool :=
  c = ' ' || c = '\t' || c = '\n' || c = '\r'

def Blanks (t : List Char) : Prop :=
  ∀ c ∈ t, isBlank c = true

instance (t : List Char) : Decidable (Blanks t) :=
  decidable_of_iff (t.all isBlank = true) List.all_eq_true

/-- One digit or more. -/
def Digits (t : List Char) : Prop :=
  t ≠ [] ∧ ∀ c ∈ t, c.isDigit = true

/-- The number that digits stand for. -/
def digitsValue (t : List Char) : Nat :=
  Nat.ofDigitChars 10 t 0

/-- The digits in front of the point: a zero stands there only alone. -/
def Whole (t : List Char) : Prop :=
  Digits t ∧ (t.head? = some '0' → t = ['0'])

/-- The digits behind the point, if there is one. -/
inductive SpellsFraction : List Char → List Char → Prop where
  | absent : SpellsFraction [] []
  | point {ds : List Char} (hds : Digits ds) : SpellsFraction ds ('.' :: ds)

/-- The power of ten, zero when it is left out. -/
inductive SpellsExponent : Int → List Char → Prop where
  | absent : SpellsExponent 0 []
  | plain {mark : Char} {ds : List Char} (hmark : mark = 'e' ∨ mark = 'E') (hds : Digits ds) :
      SpellsExponent (digitsValue ds) (mark :: ds)
  | plus {mark : Char} {ds : List Char} (hmark : mark = 'e' ∨ mark = 'E') (hds : Digits ds) :
      SpellsExponent (digitsValue ds) (mark :: '+' :: ds)
  | minus {mark : Char} {ds : List Char} (hmark : mark = 'e' ∨ mark = 'E') (hds : Digits ds) :
      SpellsExponent (-digitsValue ds) (mark :: '-' :: ds)

/-- The number with these digits before and behind the point, and this power of ten. -/
def decimal (whole fraction : List Char) (exponent : Int) : Rat :=
  digitsValue (whole ++ fraction) * 10 ^ (exponent - fraction.length)

inductive SpellsUnsigned : Rat → List Char → Prop where
  | decimal {ws fs ft et : List Char} {e : Int} (hws : Whole ws) (hft : SpellsFraction fs ft)
      (het : SpellsExponent e et) : SpellsUnsigned (decimal ws fs e) (ws ++ ft ++ et)

inductive SpellsNumber : Rat → List Char → Prop where
  | positive {q : Rat} {t : List Char} (ht : SpellsUnsigned q t) : SpellsNumber q t
  | negative {q : Rat} {t : List Char} (ht : SpellsUnsigned q t) : SpellsNumber (-q) ('-' :: t)

-- ---------------------------------------------------------------------------
-- Strings
-- ---------------------------------------------------------------------------

/-- The escapes of one letter, with the characters they stand for. -/
def shortEscapes : List (Char × Char) :=
  [('"', '"'), ('\\', '\\'), ('/', '/'), ('b', '\x08'), ('f', '\x0c'), ('n', '\n'), ('r', '\r'),
   ('t', '\t')]

/-- The digit of base sixteen, in either letter case. -/
def hexDigit? (c : Char) : Option Nat :=
  if c.isDigit then some (c.toNat - '0'.toNat)
  else if 'a' ≤ c ∧ c ≤ 'f' then some (c.toNat - 'a'.toNat + 10)
  else if 'A' ≤ c ∧ c ≤ 'F' then some (c.toNat - 'A'.toNat + 10)
  else none

/-- The code unit that four digits of base sixteen name. -/
def codeUnit? (w x y z : Char) : Option Nat := do
  let a ← hexDigit? w
  let b ← hexDigit? x
  let c ← hexDigit? y
  let d ← hexDigit? z
  return a * 0x1000 + b * 0x100 + c * 0x10 + d

/-- The first half of a surrogate pair. -/
def isHigh (unit : Nat) : Bool :=
  0xD800 ≤ unit && unit < 0xDC00

/-- The second half of a surrogate pair. -/
def isLow (unit : Nat) : Bool :=
  0xDC00 ≤ unit && unit < 0xE000

/-- The code point of a surrogate pair. -/
def pairCode (high low : Nat) : Nat :=
  0x10000 + (high - 0xD800) * 0x400 + (low - 0xDC00)

/-- How a character may stand in a string. -/
inductive SpellsChar : Char → List Char → Prop where
  | plain {c : Char} (hlow : 0x20 ≤ c.toNat) (hquote : c ≠ '"') (hslash : c ≠ '\\') :
      SpellsChar c [c]
  | short {c e : Char} (h : shortEscapes.lookup e = some c) : SpellsChar c ['\\', e]
  | unit {c w x y z : Char} (h : codeUnit? w x y z = some c.toNat) :
      SpellsChar c ['\\', 'u', w, x, y, z]
  | pair {c w x y z w' x' y' z' : Char} {high low : Nat} (hhigh : codeUnit? w x y z = some high)
      (hlow : codeUnit? w' x' y' z' = some low) (isHigh : isHigh high = true)
      (isLow : isLow low = true) (hc : c.toNat = pairCode high low) :
      SpellsChar c ['\\', 'u', w, x, y, z, '\\', 'u', w', x', y', z']

inductive SpellsChars : List Char → List Char → Prop where
  | nil : SpellsChars [] []
  | cons {c : Char} {cs t u : List Char} (hc : SpellsChar c t) (hcs : SpellsChars cs u) :
      SpellsChars (c :: cs) (t ++ u)

inductive SpellsString : String → List Char → Prop where
  | quoted {s : String} {t : List Char} (h : SpellsChars s.toList t) :
      SpellsString s ('"' :: (t ++ ['"']))

-- ---------------------------------------------------------------------------
-- Values
-- ---------------------------------------------------------------------------

/-- What a piece of a text stands for. -/
inductive Part where
  | value (v : Value)
  /-- A value with blanks around it. -/
  | padded (v : Value)
  /-- One element or more of an array, with commas between them. -/
  | elements (vs : List Value)
  | member (m : String × Value)
  /-- One member or more of an object, with commas between them. -/
  | members (ms : List (String × Value))

inductive Spells : Part → List Char → Prop where
  | literalNull : Spells (.value .null) ['n', 'u', 'l', 'l']
  | literalFalse : Spells (.value (.bool false)) ['f', 'a', 'l', 's', 'e']
  | literalTrue : Spells (.value (.bool true)) ['t', 'r', 'u', 'e']
  | number {q : Rat} {t : List Char} (ht : SpellsNumber q t) : Spells (.value (.number q)) t
  | string {s : String} {t : List Char} (ht : SpellsString s t) : Spells (.value (.string s)) t
  | emptyArray {b : List Char} (hb : Blanks b) : Spells (.value (.array [])) ('[' :: (b ++ [']']))
  | array {vs : List Value} {t : List Char} (ht : Spells (.elements vs) t) :
      Spells (.value (.array vs)) ('[' :: (t ++ [']']))
  | emptyObject {b : List Char} (hb : Blanks b) :
      Spells (.value (.object [])) ('{' :: (b ++ ['}']))
  | object {ms : List (String × Value)} {t : List Char} (ht : Spells (.members ms) t) :
      Spells (.value (.object ms)) ('{' :: (t ++ ['}']))
  | padded {v : Value} {b t b' : List Char} (hb : Blanks b) (ht : Spells (.value v) t)
      (hb' : Blanks b') : Spells (.padded v) (b ++ t ++ b')
  | element {v : Value} {t : List Char} (ht : Spells (.padded v) t) : Spells (.elements [v]) t
  | elements {v : Value} {vs : List Value} {t u : List Char} (ht : Spells (.padded v) t)
      (hu : Spells (.elements vs) u) : Spells (.elements (v :: vs)) (t ++ ',' :: u)
  | named {s : String} {v : Value} {b k b' t : List Char} (hb : Blanks b) (hk : SpellsString s k)
      (hb' : Blanks b') (ht : Spells (.padded v) t) :
      Spells (.member (s, v)) (b ++ k ++ b' ++ ':' :: t)
  | member {m : String × Value} {t : List Char} (ht : Spells (.member m) t) :
      Spells (.members [m]) t
  | members {m : String × Value} {ms : List (String × Value)} {t u : List Char}
      (ht : Spells (.member m) t) (hu : Spells (.members ms) u) :
      Spells (.members (m :: ms)) (t ++ ',' :: u)

/-- The text is a JSON text of this value. -/
def Denotes (text : String) (v : Value) : Prop :=
  Spells (.padded v) text.toList

end FrontEnd.Json

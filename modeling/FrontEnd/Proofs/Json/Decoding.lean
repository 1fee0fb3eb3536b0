-- SUMMARY: A reader of JSON texts, and that a text denotes one value at most.
import FrontEnd.Proofs.Json.Grammar

/-!
# Reading JSON

The reader turns a JSON text into its value. It takes for granted that the text
has one: it follows the text, and looks for little that the grammar forbids. So
it reads back whatever value a text denotes (`decode_of_denotes`), and as it
reads one, a text denotes no other (`Denotes.unique`).

A reader of a piece returns what follows the piece. Most pieces show where they
end. A number ends where it cannot go on, and blanks are read together with what
stands in front of them; so these are read back only in front of a text that does
not go on with them.
-/

namespace FrontEnd.Json

/-- A reader of a piece of a text returns what it stands for and what follows it. -/
abbrev Reader (α : Type) := List Char → Option (α × List Char)

-- ---------------------------------------------------------------------------
-- Numbers
-- ---------------------------------------------------------------------------

/-- The digits in front, and what follows them. -/
def readDigits (cs : List Char) : List Char × List Char :=
  (cs.takeWhile Char.isDigit, cs.dropWhile Char.isDigit)

def readFraction : List Char → List Char × List Char
  | '.' :: cs => readDigits cs
  | cs => ([], cs)

/-- The power of ten behind its mark. -/
def readPower : List Char → Int × List Char
  | '-' :: cs => (-digitsValue (readDigits cs).1, (readDigits cs).2)
  | '+' :: cs => (digitsValue (readDigits cs).1, (readDigits cs).2)
  | cs => (digitsValue (readDigits cs).1, (readDigits cs).2)

def readExponent : List Char → Int × List Char
  | 'e' :: cs => readPower cs
  | 'E' :: cs => readPower cs
  | cs => (0, cs)

def readUnsigned (cs : List Char) : Rat × List Char :=
  let (ws, cs) := readDigits cs
  let (fs, cs) := readFraction cs
  let (e, cs) := readExponent cs
  (decimal ws fs e, cs)

def readNumber : List Char → Rat × List Char
  | '-' :: cs => (-(readUnsigned cs).1, (readUnsigned cs).2)
  | cs => readUnsigned cs

theorem ne_of_isDigit {c d : Char} (hc : c.isDigit = true) (hd : d.isDigit = false) : c ≠ d := by
  rintro rfl
  rw [hc] at hd
  cases hd

/-- Whether a number may go on with `c`. -/
def continuesNumber (c : Char) : Bool :=
  c.isDigit || c = '.' || c = 'e' || c = 'E'

/-- The text does not go on with a number. -/
def EndsNumber (rest : List Char) : Prop :=
  ∀ c ∈ rest.head?, continuesNumber c = false

/-- Neither with digits of a number, nor with its point. -/
def EndsDigits (rest : List Char) : Prop :=
  ∀ c ∈ rest.head?, c.isDigit = false ∧ c ≠ '.'

theorem EndsNumber.endsDigits {rest : List Char} (h : EndsNumber rest) : EndsDigits rest := by
  intro c hc
  have := h c hc
  simp_all [continuesNumber]

theorem readDigits_append {ds rest : List Char} (hds : ∀ c ∈ ds, c.isDigit = true)
    (hrest : ∀ c ∈ rest.head?, c.isDigit = false) : readDigits (ds ++ rest) = (ds, rest) := by
  have hstop : rest.takeWhile Char.isDigit = [] ∧ rest.dropWhile Char.isDigit = rest := by
    cases rest with
    | nil => exact ⟨rfl, rfl⟩
    | cons c cs => simp [hrest c rfl]
  rw [readDigits, List.takeWhile_append_of_pos hds, List.dropWhile_append_of_pos hds, hstop.1,
    hstop.2, List.append_nil]

theorem Digits.readDigits {ds rest : List Char} (hds : Digits ds) (hrest : EndsDigits rest) :
    readDigits (ds ++ rest) = (ds, rest) :=
  readDigits_append hds.2 fun c hc => (hrest c hc).1

/-- Digits do not begin with a sign. -/
theorem Digits.exists_cons {ds : List Char} (hds : Digits ds) :
    ∃ c cs, ds = c :: cs ∧ c.isDigit = true := by
  cases ds with
  | nil => exact absurd rfl hds.1
  | cons c cs => exact ⟨c, cs, rfl, hds.2 c List.mem_cons_self⟩

theorem SpellsFraction.readFraction {fs t rest : List Char} (ht : SpellsFraction fs t)
    (hrest : EndsDigits rest) : readFraction (t ++ rest) = (fs, rest) := by
  cases ht with
  | absent =>
    cases rest with
    | nil => rfl
    | cons c cs =>
      have hc : c ≠ '.' := (hrest c rfl).2
      simp [Json.readFraction, hc]
  | point hds => exact hds.readDigits hrest

theorem Digits.readPower {ds rest : List Char} (hds : Digits ds) (hrest : EndsDigits rest) :
    readPower (ds ++ rest) = (↑(digitsValue ds), rest) := by
  obtain ⟨c, cs, rfl, hc⟩ := hds.exists_cons
  have hminus : c ≠ '-' := ne_of_isDigit hc rfl
  have hplus : c ≠ '+' := ne_of_isDigit hc rfl
  rw [List.cons_append, Json.readPower.eq_3 _ (by simpa using hminus) (by simpa using hplus),
    ← List.cons_append, hds.readDigits hrest]

theorem SpellsExponent.readExponent {e : Int} {t rest : List Char} (ht : SpellsExponent e t)
    (hrest : EndsNumber rest) : readExponent (t ++ rest) = (e, rest) := by
  have hpower : ∀ {mark : Char}, mark = 'e' ∨ mark = 'E' → ∀ cs,
      Json.readExponent (mark :: cs) = readPower cs := by
    rintro mark (rfl | rfl) cs <;> rfl
  cases ht with
  | absent =>
    cases rest with
    | nil => rfl
    | cons c cs =>
      have hc := hrest c rfl
      simp_all [continuesNumber, Json.readExponent]
  | plain hmark hds => rw [List.cons_append, hpower hmark, hds.readPower hrest.endsDigits]
  | plus hmark hds =>
    rw [List.cons_append, hpower hmark, List.cons_append, Json.readPower,
      hds.readDigits hrest.endsDigits]
  | minus hmark hds =>
    rw [List.cons_append, hpower hmark, List.cons_append, Json.readPower,
      hds.readDigits hrest.endsDigits]

/-- No power of ten begins with a digit or a point. -/
theorem SpellsExponent.endsDigits {e : Int} {t rest : List Char} (ht : SpellsExponent e t)
    (hrest : EndsNumber rest) : EndsDigits (t ++ rest) := by
  have hmarked : ∀ {mark : Char}, mark = 'e' ∨ mark = 'E' → ∀ cs, EndsDigits (mark :: cs) := by
    rintro mark (rfl | rfl) cs c ⟨rfl⟩ <;> decide
  cases ht with
  | absent => exact hrest.endsDigits
  | plain hmark _ => exact hmarked hmark _
  | plus hmark _ => exact hmarked hmark _
  | minus hmark _ => exact hmarked hmark _

theorem SpellsUnsigned.readUnsigned {q : Rat} {t rest : List Char} (ht : SpellsUnsigned q t)
    (hrest : EndsNumber rest) : readUnsigned (t ++ rest) = (q, rest) := by
  cases ht with
  | @decimal ws fs ft et e hws hft het =>
    have hafter := het.endsDigits hrest
    have hfraction : ∀ c ∈ (ft ++ (et ++ rest)).head?, c.isDigit = false := by
      cases hft with
      | absent => exact fun c hc => (hafter c hc).1
      | point _ => rintro c ⟨rfl⟩; rfl
    simp only [List.append_assoc, Json.readUnsigned, readDigits_append hws.1.2 hfraction,
      hft.readFraction hafter, het.readExponent hrest]

/-- A number begins with a digit or a minus sign. -/
theorem SpellsUnsigned.exists_cons {q : Rat} {t : List Char} (ht : SpellsUnsigned q t) :
    ∃ c cs, t = c :: cs ∧ c.isDigit = true := by
  cases ht with
  | decimal hws _ _ =>
    obtain ⟨c, cs, rfl, hc⟩ := hws.1.exists_cons
    exact ⟨c, _, rfl, hc⟩

theorem SpellsNumber.readNumber {q : Rat} {t rest : List Char} (ht : SpellsNumber q t)
    (hrest : EndsNumber rest) : readNumber (t ++ rest) = (q, rest) := by
  cases ht with
  | positive ht =>
    obtain ⟨c, cs, rfl, hc⟩ := ht.exists_cons
    have hminus : c ≠ '-' := ne_of_isDigit hc rfl
    rw [List.cons_append, Json.readNumber.eq_2 _ (by simpa using hminus), ← List.cons_append,
      ht.readUnsigned hrest]
  | negative ht => rw [List.cons_append, Json.readNumber, ht.readUnsigned hrest]

-- ---------------------------------------------------------------------------
-- Strings
-- ---------------------------------------------------------------------------

def readChar : Reader Char
  | '\\' :: 'u' :: w :: x :: y :: z :: cs => do
    let unit ← codeUnit? w x y z
    match isHigh unit, cs with
    | true, '\\' :: 'u' :: w' :: x' :: y' :: z' :: cs =>
      return (Char.ofNat (pairCode unit (← codeUnit? w' x' y' z')), cs)
    | _, cs => return (Char.ofNat unit, cs)
  | '\\' :: e :: cs => return (← shortEscapes.lookup e, cs)
  | c :: cs => some (c, cs)
  | [] => none

/-- The characters of a string up to its closing quote, at most as many as the first argument. -/
def readChars : Nat → Reader (List Char)
  | 0, _ => none
  | n + 1, cs =>
    match cs with
    | '"' :: cs => some ([], cs)
    | cs => do
      let (c, cs) ← readChar cs
      let (s, cs) ← readChars n cs
      return (c :: s, cs)

/-- No code point is half of a surrogate pair. -/
theorem isHigh_toNat (c : Char) : isHigh c.toNat = false := by
  have hvalid : c.toNat.isValidChar := c.valid
  simp only [Nat.isValidChar] at hvalid
  simp only [isHigh, Bool.and_eq_false_imp, decide_eq_true_eq, decide_eq_false_iff_not]
  omega

theorem SpellsChar.readChar {c : Char} {t rest : List Char} (ht : SpellsChar c t) :
    readChar (t ++ rest) = some (c, rest) := by
  cases ht with
  | plain _ _ hslash => simp [Json.readChar, hslash]
  | @short e h =>
    have hu : e ≠ 'u' := by rintro rfl; cases h
    simp [Json.readChar, hu, h]
  | unit h => simp [Json.readChar, h, isHigh_toNat]
  | pair hhigh hlow isHigh _ hc => simp [Json.readChar, hhigh, hlow, isHigh, ← hc]

/-- A character of a string does not begin with the quote that ends the string. -/
theorem SpellsChar.exists_cons {c : Char} {t : List Char} (ht : SpellsChar c t) :
    ∃ d u, t = d :: u ∧ d ≠ '"' := by
  cases ht with
  | plain _ hquote _ => exact ⟨_, _, rfl, hquote⟩
  | short _ => exact ⟨_, _, rfl, by decide⟩
  | unit _ => exact ⟨_, _, rfl, by decide⟩
  | pair _ _ _ _ _ => exact ⟨_, _, rfl, by decide⟩

theorem SpellsChars.readChars {s t : List Char} (ht : SpellsChars s t) {rest : List Char} :
    ∀ n, t.length < n → readChars n (t ++ '"' :: rest) = some (s, rest) := by
  induction ht with
  | nil =>
    rintro (_ | n) hn
    · simp at hn
    · rfl
  | @cons c cs t u hc _ ih =>
    rintro (_ | n) hn
    · simp at hn
    · have hread : Json.readChar (t ++ (u ++ '"' :: rest)) = some (c, u ++ '"' :: rest) :=
        hc.readChar
      obtain ⟨d, t, rfl, hd⟩ := hc.exists_cons
      have hlen : u.length < n := by grind
      simp_all [Json.readChars]

-- ---------------------------------------------------------------------------
-- Lists in brackets
-- ---------------------------------------------------------------------------

variable {α : Type}

def skipBlanks (cs : List Char) : List Char :=
  cs.dropWhile isBlank

/-- A reader that takes blanks on both sides too. -/
def readPadded (read : Reader α) : Reader α := fun cs => do
  let (a, cs) ← read (skipBlanks cs)
  return (a, skipBlanks cs)

/-- One item or more, with commas between them, and the bracket behind them. There are at most as
many as the number says. -/
def readSeparated (item : Reader α) : Nat → Reader (List α)
  | 0, _ => none
  | n + 1, cs => do
    let (a, cs) ← item cs
    match cs with
    | ',' :: cs =>
      let (as, cs) ← readSeparated item n cs
      return (a :: as, cs)
    | cs => return ([a], cs.tail)

/-- Any number of items up to the closing bracket. -/
def readBracketed (item : Reader α) (close : Char) (n : Nat) : Reader (List α) := fun cs =>
  if (skipBlanks cs).head? = some close then some ([], (skipBlanks cs).tail)
  else readSeparated item n cs

/-- What may stand behind an item. -/
def isDelimiter (c : Char) : Bool :=
  c = ',' || c = ']' || c = '}'

/-- The text goes on behind an item, if at all. -/
def Delimited (rest : List Char) : Prop :=
  ∀ c ∈ rest.head?, isDelimiter c = true

/-- The item is read from its text, wherever an item may stand. -/
def ReadsItem (item : Reader α) (a : α) (t : List Char) : Prop :=
  ∀ rest, Delimited rest → item (t ++ rest) = some (a, rest)

/-- The items are read from their text, in front of a closing bracket. -/
def ReadsItems (item : Reader α) (as : List α) (t : List Char) : Prop :=
  ∀ n close rest, t.length < n → close = ']' ∨ close = '}' →
    readSeparated item n (t ++ close :: rest) = some (as, rest)

/-- Behind blanks, if any, stands neither a blank nor a closing bracket. -/
def Opens (t : List Char) : Prop :=
  ∃ b c u, t = b ++ c :: u ∧ Blanks b ∧ isBlank c = false ∧ c ≠ ']' ∧ c ≠ '}'

theorem skipBlanks_append {b : List Char} (hb : Blanks b) (rest : List Char) :
    skipBlanks (b ++ rest) = skipBlanks rest :=
  List.dropWhile_append_of_pos hb

theorem skipBlanks_cons {c : Char} (hc : isBlank c = false) (cs : List Char) :
    skipBlanks (c :: cs) = c :: cs := by
  simp [skipBlanks, hc]

theorem Delimited.skipBlanks_eq {rest : List Char} (h : Delimited rest) :
    skipBlanks rest = rest := by
  cases rest with
  | nil => rfl
  | cons c cs =>
    refine skipBlanks_cons ?_ cs
    have hc := h c rfl
    simp only [isDelimiter, Bool.or_eq_true, decide_eq_true_eq] at hc
    obtain (rfl | rfl) | rfl := hc <;> rfl

/-- No number goes on with blanks, or with what stands behind an item. -/
theorem Delimited.endsNumber {rest : List Char} (h : Delimited rest) {b : List Char}
    (hb : Blanks b) : EndsNumber (b ++ rest) := by
  intro c hc
  cases b with
  | nil =>
    have hc := h c hc
    simp only [isDelimiter, Bool.or_eq_true, decide_eq_true_eq] at hc
    obtain (rfl | rfl) | rfl := hc <;> rfl
  | cons d b =>
    obtain rfl : d = c := by simpa using hc
    have hd := hb d List.mem_cons_self
    simp only [isBlank, Bool.or_eq_true, decide_eq_true_eq] at hd
    obtain ((rfl | rfl) | rfl) | rfl := hd <;> rfl

theorem delimited_comma (rest : List Char) : Delimited (',' :: rest) := by
  rintro c ⟨rfl⟩
  rfl

theorem delimited_close {close : Char} (hclose : close = ']' ∨ close = '}') (rest : List Char) :
    Delimited (close :: rest) := by
  rintro c ⟨rfl⟩
  obtain rfl | rfl := hclose <;> rfl

theorem ReadsItem.single {item : Reader α} {a : α} {t : List Char} (ht : ReadsItem item a t) :
    ReadsItems item [a] t := by
  rintro (_ | n) close rest hn hclose
  · simp at hn
  · have hcomma : close ≠ ',' := by obtain rfl | rfl := hclose <;> decide
    simp [readSeparated, ht _ (delimited_close hclose rest), hcomma]

theorem ReadsItem.cons {item : Reader α} {a : α} {as : List α} {t u : List Char}
    (ht : ReadsItem item a t) (hu : ReadsItems item as u) :
    ReadsItems item (a :: as) (t ++ ',' :: u) := by
  rintro (_ | n) close rest hn hclose
  · simp at hn
  · have hlen : u.length < n := by grind
    simp [readSeparated, ht _ (delimited_comma _), hu n close rest hlen hclose]

theorem readBracketed_nil (item : Reader α) {close : Char} (hclose : close = ']' ∨ close = '}')
    (n : Nat) {b : List Char} (hb : Blanks b) (rest : List Char) :
    readBracketed item close n (b ++ close :: rest) = some ([], rest) := by
  simp [readBracketed, skipBlanks_append hb, (delimited_close hclose rest).skipBlanks_eq]

theorem ReadsItems.readBracketed {item : Reader α} {as : List α} {t : List Char}
    (ht : ReadsItems item as t) (hopens : Opens t) {close : Char}
    (hclose : close = ']' ∨ close = '}') {n : Nat} (hn : t.length < n) (rest : List Char) :
    readBracketed item close n (t ++ close :: rest) = some (as, rest) := by
  have hhead : (skipBlanks (t ++ close :: rest)).head? ≠ some close := by
    obtain ⟨b, c, u, rfl, hb, hc, hsquare, hcurly⟩ := hopens
    rw [List.append_assoc, skipBlanks_append hb, List.cons_append, skipBlanks_cons hc]
    obtain rfl | rfl := hclose <;> simpa
  rw [Json.readBracketed, if_neg hhead, ht n close rest hn hclose]

-- ---------------------------------------------------------------------------
-- Values
-- ---------------------------------------------------------------------------

def readMember (read : Reader Value) (n : Nat) : Reader (String × Value) := fun cs =>
  match skipBlanks cs with
  | '"' :: cs => do
    let (name, cs) ← readChars n cs
    let (v, cs) ← readPadded read (skipBlanks cs).tail
    return ((.ofList name, v), cs)
  | _ => none

/-- A value, nested at most as deeply as the number says, and with as many parts at most at each
depth. -/
def readValue : Nat → Reader Value
  | 0, _ => none
  | n + 1, cs =>
    match cs with
    | 'n' :: cs => some (.null, cs.drop 3)
    | 'f' :: cs => some (.bool false, cs.drop 4)
    | 't' :: cs => some (.bool true, cs.drop 3)
    | '"' :: cs => do
      let (s, cs) ← readChars n cs
      return (.string (.ofList s), cs)
    | '[' :: cs => do
      let (vs, cs) ← readBracketed (readPadded (readValue n)) ']' n cs
      return (.array vs, cs)
    | '{' :: cs => do
      let (ms, cs) ← readBracketed (readMember (readValue n) n) '}' n cs
      return (.object ms, cs)
    | cs => some (.number (readNumber cs).1, (readNumber cs).2)

/-- The value of a JSON text. -/
def decode (text : String) : Option Value :=
  (readPadded (readValue (text.length + 1)) text.toList).map (·.1)

theorem readValue_number {c : Char} (hc : c.isDigit = true ∨ c = '-') (n : Nat) (cs : List Char) :
    readValue (n + 1) (c :: cs) =
      some (.number (readNumber (c :: cs)).1, (readNumber (c :: cs)).2) := by
  have hne : ∀ d : Char, d.isDigit = false → d ≠ '-' → c ≠ d := by
    intro d hdigit hminus
    obtain hc | rfl := hc
    · exact ne_of_isDigit hc hdigit
    · exact hminus.symm
  rw [readValue]
  all_goals
    intro _ h
    exact absurd (List.head_eq_of_cons_eq h) (hne _ rfl (by decide))

theorem SpellsNumber.exists_cons {q : Rat} {t : List Char} (ht : SpellsNumber q t) :
    ∃ c cs, t = c :: cs ∧ (c.isDigit = true ∨ c = '-') := by
  cases ht with
  | positive ht =>
    obtain ⟨c, cs, rfl, hc⟩ := ht.exists_cons
    exact ⟨c, cs, rfl, .inl hc⟩
  | negative _ => exact ⟨'-', _, rfl, .inr rfl⟩

/-- A value begins with a character of its own. -/
theorem Spells.exists_cons {v : Value} {t : List Char} (ht : Spells (.value v) t) :
    ∃ c u, t = c :: u ∧ isBlank c = false ∧ c ≠ ']' ∧ c ≠ '}' := by
  cases ht with
  | literalNull => exact ⟨_, _, rfl, by decide⟩
  | literalFalse => exact ⟨_, _, rfl, by decide⟩
  | literalTrue => exact ⟨_, _, rfl, by decide⟩
  | number ht =>
    obtain ⟨c, u, rfl, hc⟩ := ht.exists_cons
    refine ⟨c, u, rfl, ?_⟩
    obtain hc | rfl := hc
    · have hne : ∀ d : Char, d.isDigit = false → c ≠ d := fun _ => ne_of_isDigit hc
      simp [isBlank, hne]
    · decide
  | string ht => cases ht; exact ⟨_, _, rfl, by decide⟩
  | emptyArray _ => exact ⟨_, _, rfl, by decide⟩
  | array _ => exact ⟨_, _, rfl, by decide⟩
  | emptyObject _ => exact ⟨_, _, rfl, by decide⟩
  | object _ => exact ⟨_, _, rfl, by decide⟩

theorem Opens.append {t : List Char} (ht : Opens t) (u : List Char) : Opens (t ++ u) := by
  obtain ⟨b, c, t, rfl, hb, hc⟩ := ht
  exact ⟨b, c, t ++ u, by simp, hb, hc⟩

theorem Spells.opens_padded {v : Value} {t : List Char} (ht : Spells (.padded v) t) : Opens t := by
  cases ht with
  | @padded _ b _ b' hb ht _ =>
    obtain ⟨c, u, rfl, hc⟩ := ht.exists_cons
    exact ⟨b, c, u ++ b', by simp, hb, hc⟩

theorem Spells.opens_elements {vs : List Value} {t : List Char} (ht : Spells (.elements vs) t) :
    Opens t := by
  cases ht with
  | element ht => exact ht.opens_padded
  | elements ht _ => exact ht.opens_padded.append _

theorem Spells.opens_member {m : String × Value} {t : List Char} (ht : Spells (.member m) t) :
    Opens t := by
  cases ht with
  | @named _ _ b _ b' u hb hk _ _ =>
    cases hk with
    | @quoted k _ => exact ⟨b, '"', k ++ ['"'] ++ b' ++ ':' :: u, by simp, hb, by decide⟩

theorem Spells.opens_members {ms : List (String × Value)} {t : List Char}
    (ht : Spells (.members ms) t) : Opens t := by
  cases ht with
  | member ht => exact ht.opens_member
  | members ht _ => exact ht.opens_member.append _

/-- The reader of a part reads it from this text. -/
def Part.ReadBack (t : List Char) : Part → Prop
  | .value v => ∀ n rest, t.length < n → EndsNumber rest →
      readValue n (t ++ rest) = some (v, rest)
  | .padded v => ∀ n, t.length < n → ReadsItem (readPadded (readValue n)) v t
  | .elements vs => ∀ n, t.length < n → ReadsItems (readPadded (readValue n)) vs t
  | .member m => ∀ n, t.length < n → ReadsItem (readMember (readValue n) n) m t
  | .members ms => ∀ n, t.length < n → ReadsItems (readMember (readValue n) n) ms t

/-- A value is read with one level left for it, and the levels below for what is in it. -/
theorem Part.readBack_value {v : Value} {t : List Char}
    (h : ∀ n rest, t.length ≤ n → EndsNumber rest →
      readValue (n + 1) (t ++ rest) = some (v, rest)) :
    ReadBack t (.value v) := by
  intro n rest hn hrest
  cases n with
  | zero => exact absurd hn (Nat.not_lt_zero _)
  | succ n => exact h n rest (Nat.le_of_lt_succ hn) hrest

/-- Induction on the spelling: the parts of a part have shorter texts, so what is enough for the
whole is enough for them. -/
theorem Spells.readBack {p : Part} {t : List Char} (ht : Spells p t) : p.ReadBack t := by
  induction ht with
  | literalNull => exact Part.readBack_value fun _ _ _ _ => rfl
  | literalFalse => exact Part.readBack_value fun _ _ _ _ => rfl
  | literalTrue => exact Part.readBack_value fun _ _ _ _ => rfl
  | number ht =>
    apply Part.readBack_value
    intro n rest _ hrest
    have hread := ht.readNumber hrest
    obtain ⟨c, u, rfl, hc⟩ := ht.exists_cons
    rw [List.cons_append, readValue_number hc, ← List.cons_append, hread]
  | string ht =>
    apply Part.readBack_value
    intro n rest hn _
    cases ht with
    | @quoted t ht =>
      have hlen : t.length < n := by grind
      simp [readValue, ht.readChars n hlen]
  | emptyArray hb =>
    apply Part.readBack_value
    intro n rest _ _
    simp [readValue, readBracketed_nil _ (.inl rfl) n hb]
  | @array _ t ht ih =>
    apply Part.readBack_value
    intro n rest hn _
    have hlen : t.length < n := by grind
    simp [readValue, (ih n hlen).readBracketed ht.opens_elements (.inl rfl) hlen]
  | emptyObject hb =>
    apply Part.readBack_value
    intro n rest _ _
    simp [readValue, readBracketed_nil _ (.inr rfl) n hb]
  | @object _ t ht ih =>
    apply Part.readBack_value
    intro n rest hn _
    have hlen : t.length < n := by grind
    simp [readValue, (ih n hlen).readBracketed ht.opens_members (.inr rfl) hlen]
  | @padded _ b t b' hb ht hb' ih =>
    intro n hn rest hrest
    have hlen : t.length < n := by grind
    have hread := ih n (b' ++ rest) hlen (hrest.endsNumber hb')
    obtain ⟨c, u, rfl, hc, -⟩ := ht.exists_cons
    rw [List.cons_append] at hread
    simp [readPadded, skipBlanks_append hb, skipBlanks_cons hc, hread, skipBlanks_append hb',
      hrest.skipBlanks_eq]
  | element _ ih => exact fun n hn => (ih n hn).single
  | @elements _ _ t u _ _ iht ihu =>
    intro n hn
    have hlen : t.length < n ∧ u.length < n := by grind
    exact (iht n hlen.1).cons (ihu n hlen.2)
  | @named _ _ b k b' t hb hk hb' _ ih =>
    intro n hn rest hrest
    cases hk with
    | @quoted k hk =>
      have hlen : k.length < n ∧ t.length < n := by grind
      have hcolon (cs : List Char) : skipBlanks (':' :: cs) = ':' :: cs := skipBlanks_cons rfl cs
      have hquote (cs : List Char) : skipBlanks ('"' :: cs) = '"' :: cs := skipBlanks_cons rfl cs
      simp [readMember, skipBlanks_append hb, hquote, hk.readChars n hlen.1, skipBlanks_append hb',
        hcolon, ih n hlen.2 rest hrest]
  | member _ ih => exact fun n hn => (ih n hn).single
  | @members _ _ t u _ _ iht ihu =>
    intro n hn
    have hlen : t.length < n ∧ u.length < n := by grind
    exact (iht n hlen.1).cons (ihu n hlen.2)

theorem decode_of_denotes {text : String} {v : Value} (h : Denotes text v) :
    decode text = some v := by
  have hitem : ReadsItem (readPadded (readValue (text.length + 1))) v text.toList :=
    Spells.readBack h _ (Nat.lt_succ_of_le (Nat.le_of_eq String.length_toList))
  have hread := hitem [] (by simp [Delimited])
  rw [List.append_nil] at hread
  rw [decode, hread, Option.map_some]

example : decode " [-1.50e2] " = some (.array [.number (-150)]) := by cbv

example : decode "[null, \"\\u00e9\\ud83d\\ude00\"]" = some (.array [.null, .string "é😀"]) := by
  rfl

/-- A text denotes one value at most. -/
theorem Denotes.unique {text : String} {v w : Value} (hv : Denotes text v) (hw : Denotes text w) :
    v = w :=
  Option.some.inj ((decode_of_denotes hv).symm.trans (decode_of_denotes hw))

end FrontEnd.Json

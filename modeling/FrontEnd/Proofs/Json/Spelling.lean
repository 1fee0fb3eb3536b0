-- SUMMARY: String literals, numbers and lists as the program writes them, as JSON texts.
import FrontEnd.Proofs.Json.Grammar
import FrontEnd.Text.Quoted
import Mathlib.Tactic.SplitIfs

/-!
# Writing JSON

Every character of a string literal is spelled by a rule of the grammar: the
escapes cover what may not stand in a string, and the control characters are all
below the code points that would take more than four digits. A decimal numeral
spells its number, and items that are separated by commas and blanks spell the
elements of an array.
-/

namespace FrontEnd.Json

open Text Unicode

-- ---------------------------------------------------------------------------
-- Strings
-- ---------------------------------------------------------------------------

theorem hexDigit?_digitChar : ∀ n < 16, hexDigit? n.digitChar = some n := by
  decide

theorem codeUnit?_leftpad {n : Nat} (h : n < 0x100) : ∃ w x y z,
    (Nat.toDigits 16 n).leftpad 4 '0' = [w, x, y, z] ∧ codeUnit? w x y z = some n := by
  have hzero : hexDigit? '0' = some 0 := by decide
  obtain hsmall | hlarge := Nat.lt_or_ge n 16
  · refine ⟨'0', '0', '0', n.digitChar, ?_, ?_⟩
    · simp [Nat.toDigits_of_lt_base hsmall, List.leftpad]
    · simp [codeUnit?, hzero, hexDigit?_digitChar n hsmall]
  · have hdiv : n / 16 < 16 := by omega
    have hmod : n % 16 < 16 := by omega
    refine ⟨'0', '0', (n / 16).digitChar, (n % 16).digitChar, ?_, ?_⟩
    · simp [Nat.toDigits_of_base_le (by decide) hlarge, Nat.toDigits_of_lt_base hdiv, List.leftpad]
    · simp only [codeUnit?, hzero, hexDigit?_digitChar _ hdiv, hexDigit?_digitChar _ hmod,
        Option.bind_eq_bind, Option.bind_some, Option.pure_def, Option.some.injEq]
      omega

theorem spells_fourDigitCode {c : Char} (hc : isControl c = true) :
    SpellsChar c (fourDigitCode c) := by
  have hlow : c.toNat < 0x100 := by
    have := isControl_iff.1 hc
    omega
  obtain ⟨w, x, y, z, hdigits, hunit⟩ := codeUnit?_leftpad hlow
  rw [fourDigitCode, hexDigits, hdigits]
  exact .unit hunit

/-- Whatever the character, its form in a string literal spells it. -/
theorem spells_jsonChar (c : Char) : SpellsChar c (jsonChar c) := by
  unfold jsonChar
  split_ifs with hquote hslash hnewline hreturn htab hcontrol
  · subst hquote; exact .short rfl
  · subst hslash; exact .short rfl
  · subst hnewline; exact .short rfl
  · subst hreturn; exact .short rfl
  · subst htab; exact .short rfl
  · exact spells_fourDigitCode hcontrol
  · refine .plain ?_ hquote hslash
    have hlow := mt isControl_iff.2 hcontrol
    omega

theorem spells_flatMap {f : Char → List Char} {cs : List Char}
    (h : ∀ c ∈ cs, SpellsChar c (f c)) : SpellsChars cs (cs.flatMap f) := by
  induction cs with
  | nil => exact .nil
  | cons c cs ih =>
    rw [List.flatMap_cons]
    exact .cons (h c List.mem_cons_self) (ih fun d hd => h d (List.mem_cons_of_mem c hd))

/-- A string literal spells its text. -/
theorem spells_jsonString (s : String) : SpellsString s (jsonString s).toList := by
  rw [toList_jsonString]
  exact .quoted (spells_flatMap fun c _ => spells_jsonChar c)

/-- The character stands for itself in a string. -/
def isPlain (c : Char) : Bool :=
  0x20 ≤ c.toNat && c ≠ '"' && c ≠ '\\'

/-- A text of plain characters is spelled by itself between quotes. -/
theorem spells_plain {s : String} (h : s.toList.all isPlain = true) :
    SpellsString s ("\"" ++ s ++ "\"").toList := by
  have heach : ∀ c ∈ s.toList, SpellsChar c [c] := by
    intro c hc
    have hplain := List.all_eq_true.1 h c hc
    simp only [isPlain, Bool.and_eq_true, decide_eq_true_eq] at hplain
    exact .plain hplain.1.1 hplain.1.2 hplain.2
  have hchars := spells_flatMap heach
  rw [List.flatMap_singleton'] at hchars
  simpa using SpellsString.quoted hchars

-- ---------------------------------------------------------------------------
-- Numbers
-- ---------------------------------------------------------------------------

/-- Only the numeral of zero begins with a zero. -/
theorem head?_toDigits_ne_zero (n : Nat) : 0 < n → (Nat.toDigits 10 n).head? ≠ some '0' := by
  induction n using Nat.strongRecOn with
  | ind n ih =>
    intro hpos
    obtain hsmall | hlarge := Nat.lt_or_ge n 10
    · have hdigit : ∀ d < 10, 0 < d → d.digitChar ≠ '0' := by decide
      simpa [Nat.toDigits_of_lt_base hsmall] using hdigit n hsmall hpos
    · have hhead := ih (n / 10) (by omega) (by omega)
      rw [Nat.toDigits_of_base_le (by decide) hlarge]
      cases hdigits : Nat.toDigits 10 (n / 10) with
      | nil => exact absurd hdigits Nat.toDigits_ne_nil
      | cons c cs => rwa [hdigits] at hhead

theorem whole_toDigits (n : Nat) : Whole (Nat.toDigits 10 n) := by
  refine ⟨⟨Nat.toDigits_ne_nil, fun c hc => ?_⟩, fun hhead => ?_⟩
  · exact Nat.isDigit_of_mem_toDigits (by decide) (by decide) hc
  · obtain rfl | hpos := Nat.eq_zero_or_pos n
    · rfl
    · exact absurd hhead (head?_toDigits_ne_zero n hpos)

/-- A decimal numeral spells its number. -/
theorem spells_repr (n : Nat) : SpellsNumber n n.repr.toList := by
  have hvalue : decimal (Nat.toDigits 10 n) [] 0 = n := by
    simp [decimal, digitsValue, Nat.ofDigitChars_toDigits]
  have hspells := SpellsUnsigned.decimal (whole_toDigits n) .absent .absent
  rw [hvalue, List.append_nil, List.append_nil, ← Nat.toList_repr] at hspells
  exact .positive hspells

-- ---------------------------------------------------------------------------
-- Lists
-- ---------------------------------------------------------------------------

theorem blanks_nil : Blanks [] := by
  decide

theorem Blanks.append {b b' : List Char} (hb : Blanks b) (hb' : Blanks b') : Blanks (b ++ b') := by
  intro c hc
  obtain hc | hc := List.mem_append.1 hc
  · exact hb c hc
  · exact hb' c hc

/-- More blanks may be put around a value. -/
theorem Spells.pad {v : Value} {b t b' : List Char} (hb : Blanks b) (ht : Spells (.padded v) t)
    (hb' : Blanks b') : Spells (.padded v) (b ++ t ++ b') := by
  cases ht with
  | @padded _ l u r hl hu hr =>
    have hpadded := Spells.padded (hb.append hl) hu (hr.append hb')
    simpa only [List.append_assoc] using hpadded

/-- Values between commas are the elements of an array, whatever blanks stand behind each comma,
in front of the first value and behind the last. -/
theorem spells_intercalate {α : Type} {value : α → Value} {text : α → List Char}
    (h : ∀ a, Spells (.padded (value a)) (text a)) {gap : List Char} (hgap : Blanks gap) (a : α)
    (as : List α) {b b' : List Char} (hb : Blanks b) (hb' : Blanks b') :
    Spells (.elements ((a :: as).map value))
      (b ++ List.intercalate (',' :: gap) ((a :: as).map text) ++ b') := by
  induction as generalizing a b with
  | nil => simpa using Spells.element ((h a).pad hb hb')
  | cons a' as ih =>
    have hfirst := (h a).pad hb blanks_nil
    have hrest := ih a' hgap
    simpa [List.intercalate_cons_cons] using Spells.elements hfirst hrest

end FrontEnd.Json

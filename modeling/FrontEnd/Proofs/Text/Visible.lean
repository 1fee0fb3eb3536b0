-- SUMMARY: Texts without control characters, and that escaping and quoting make every text one.
import FrontEnd.Diagnostic.Basic
import FrontEnd.Trace
import FrontEnd.Text.Quoted
import Mathlib.Tactic.SplitIfs

/-!
# Visible texts

A text without control characters does nothing to a terminal but show itself.
Numerals are such texts, and so is every text once it is escaped, by the rules of
escaped text, of quotes or of JSON: a control character is written as letters,
digits, a backslash and braces.

A text of several lines has newlines besides, and is `Lined` when it has no other
control characters.
-/

namespace FrontEnd.Text

open Unicode

/-- No character of the text is a control character. -/
def Visible (text : String) : Prop :=
  ∀ c ∈ text.toList, isControl c = false

instance (text : String) : Decidable (Visible text) :=
  List.decidableBAll _ text.toList

namespace Visible

variable {s t : String}

theorem empty : Visible "" :=
  nofun

theorem append (hs : Visible s) (ht : Visible t) : Visible (s ++ t) := by
  intro c hc
  rw [String.toList_append] at hc
  obtain hc | hc := List.mem_append.1 hc
  · exact hs c hc
  · exact ht c hc

theorem intercalate (hs : Visible s) {ts : List String} (hts : ∀ t ∈ ts, Visible t) :
    Visible (s.intercalate ts) := by
  induction ts with
  | nil => exact nofun
  | cons t ts ih =>
    obtain ⟨ht, hts⟩ := List.forall_mem_cons.1 hts
    cases ts with
    | nil => rwa [String.intercalate_singleton]
    | cons u ts =>
      rw [String.intercalate_cons_cons]
      exact (ht.append hs).append (ih hts)

/-- A control character is in no visible text. -/
theorem not_mem {c : Char} (h : Visible s) (hc : isControl c = true) : c ∉ s.toList := by
  intro hmem
  rw [h c hmem] at hc
  cases hc

end Visible

theorem isControl_of_mem {cs : List Char} (h : cs.any isControl = false) {c : Char} (hc : c ∈ cs) :
    isControl c = false :=
  Bool.eq_false_iff.2 (List.any_eq_false.1 h c hc)

theorem mem_toDigits {b n : Nat} {c : Char} (hb : 1 < b) (h : c ∈ Nat.toDigits b n) :
    ∃ d < b, c = d.digitChar := by
  induction n using Nat.strongRecOn with
  | ind n ih =>
    obtain hsmall | hlarge := Nat.lt_or_ge n b
    · rw [Nat.toDigits_of_lt_base hsmall] at h
      exact ⟨n, hsmall, List.mem_singleton.1 h⟩
    · rw [Nat.toDigits_of_base_le hb hlarge] at h
      obtain h | h := List.mem_append.1 h
      · exact ih (n / b) (Nat.div_lt_self (by omega) hb) h
      · exact ⟨n % b, Nat.mod_lt _ (by omega), List.mem_singleton.1 h⟩

theorem isControl_digitChar : ∀ d < 16, isControl d.digitChar = false := by
  decide

theorem visible_repr (n : Nat) : Visible n.repr := by
  intro c hc
  rw [Nat.toList_repr] at hc
  obtain ⟨d, hd, rfl⟩ := mem_toDigits (by decide) hc
  exact isControl_digitChar d (by omega)

theorem any_isControl_hexDigits (c : Char) : (hexDigits c).any isControl = false := by
  rw [List.any_eq_false]
  intro d hd
  obtain ⟨n, hn, rfl⟩ := mem_toDigits (by decide) hd
  rw [isControl_digitChar n hn]
  exact Bool.false_ne_true

theorem any_isControl_bracedCode (c : Char) : (bracedCode c).any isControl = false := by
  rw [bracedCode, List.any_append, List.any_append, any_isControl_hexDigits]
  rfl

theorem any_isControl_escapeChar (c : Char) : (escapeChar c).any isControl = false := by
  unfold escapeChar
  split_ifs with hnewline hreturn htab hnul hcontrol
  · rfl
  · rfl
  · rfl
  · rfl
  · exact any_isControl_bracedCode c
  · simpa using hcontrol

theorem any_isControl_quotedChar {delimiter : Char} (hd : isControl delimiter = false) (c : Char) :
    (quotedChar delimiter c).any isControl = false := by
  unfold quotedChar
  split_ifs with hnul htab hreturn hnewline hescaped hcode
  · rfl
  · rfl
  · rfl
  · rfl
  · have hc : isControl c = false := by
      rcases Bool.or_eq_true_iff.1 hescaped with h | h
      · rw [of_decide_eq_true h]
        decide
      · rw [of_decide_eq_true h]
        exact hd
    simpa [hc] using (by decide : isControl '\\' = false)
  · exact any_isControl_bracedCode c
  · have hprintable : isPrintable c = true := by simp_all
    have hc : isControl c = false := Bool.eq_false_iff.2 fun h => by
      rw [isPrintable_of_isControl h] at hprintable
      cases hprintable
    simpa using hc

theorem any_isControl_fourDigitCode (c : Char) : (fourDigitCode c).any isControl = false := by
  have hzero : isControl '0' = false := by decide
  rw [fourDigitCode, List.leftpad, List.any_append, List.any_append, any_isControl_hexDigits,
    List.any_replicate, hzero, ite_self]
  rfl

theorem any_isControl_jsonChar (c : Char) : (jsonChar c).any isControl = false := by
  unfold jsonChar
  split_ifs with hquote hbackslash hnewline hreturn htab hcontrol
  · rfl
  · rfl
  · rfl
  · rfl
  · rfl
  · exact any_isControl_fourDigitCode c
  · simpa using hcontrol

/-- Where every character is written without control characters, the whole text is. -/
theorem isControl_of_mem_flatMap {f : Char → List Char} (h : ∀ c, (f c).any isControl = false)
    {cs : List Char} {d : Char} (hd : d ∈ cs.flatMap f) : isControl d = false := by
  obtain ⟨c, -, hd⟩ := List.mem_flatMap.1 hd
  exact isControl_of_mem (h c) hd

/-- Whatever the text, its escaped form is visible. -/
theorem visible_escape (text : String) : Visible (escape text) := by
  intro d hd
  rw [toList_escape] at hd
  exact isControl_of_mem_flatMap any_isControl_escapeChar hd

/-- What stands between quotes is visible. -/
theorem visible_quoteChar (c : Char) : Visible (quoteChar c) := by
  have hquote : isControl '\'' = false := by decide
  intro d hd
  rw [toList_quoteChar, ← List.cons_append, List.mem_append, List.mem_cons,
    List.mem_singleton] at hd
  obtain (rfl | hd) | rfl := hd
  · exact hquote
  · exact isControl_of_mem (any_isControl_quotedChar hquote c) hd
  · exact hquote

theorem visible_jsonString (text : String) : Visible (jsonString text) := by
  have hquote : isControl '"' = false := by decide
  intro d hd
  rw [toList_jsonString, ← List.cons_append, List.mem_append, List.mem_cons,
    List.mem_singleton] at hd
  obtain (rfl | hd) | rfl := hd
  · exact hquote
  · exact isControl_of_mem_flatMap any_isControl_jsonChar hd
  · exact hquote

theorem Visible.padRight {text : String} (h : Visible text) (width : Nat) :
    Visible (padRight width text) := by
  intro d hd
  rw [toList_padRight, List.mem_append, List.mem_replicate] at hd
  obtain hd | ⟨-, rfl⟩ := hd
  · exact h d hd
  · decide

theorem visible_describe (p : Position) : Visible p.describe :=
  .append (.append (.append (by decide) (visible_repr _)) (by decide)) (visible_repr _)

theorem visible_codeText (c : Code) : Visible c.text := by
  cases c <;> decide

theorem visible_displayName (k : Kind) : Visible k.displayName := by
  cases k <;> decide

theorem visible_row (t : Token) : Visible (Trace.row t) :=
  ((((visible_repr _).padRight _).append ((visible_repr _).padRight _)).append
    ((visible_displayName _).padRight _)).append ((visible_escape _).padRight _)

-- ---------------------------------------------------------------------------
-- Several lines
-- ---------------------------------------------------------------------------

/-- Newlines are the only control characters of the text. -/
def Lined (text : String) : Prop :=
  ∀ c ∈ text.toList, isControl c = true → c = '\n'

instance (text : String) : Decidable (Lined text) :=
  List.decidableBAll _ text.toList

theorem Visible.lined {text : String} (h : Visible text) : Lined text := by
  intro c hc hcontrol
  rw [h c hc] at hcontrol
  cases hcontrol

end FrontEnd.Text

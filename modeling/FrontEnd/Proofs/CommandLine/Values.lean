-- SUMMARY: The values that the options of a run take, and the faults of all others.
import FrontEnd.CommandLine.Arguments

/-!
# Values of options

Four options of a run take a value. What they take can be told without their
readers: a name out of a list, or a numeral for a number in a range
(`Valued.Takes`). A value that is taken makes one setting, and any other is a
fault that names it (`Valued.read_cases`).
-/

namespace FrontEnd

variable {text : String}

/-- What is looked for by its name is found, or nothing has the name. -/
theorem find?_name_cases {α : Type} (all : List α) (name : α → String)
    (hfound : ∀ v, all.find? (name · == name v) = some v) (text : String) :
    (∃ v, (∀ w, text = name w ↔ w = v) ∧ all.find? (name · == text) = some v) ∨
      (∀ w, text ≠ name w) ∧ all.find? (name · == text) = none := by
  cases h : all.find? (name · == text) with
  | some v =>
    have hname : (name v == text) = true := List.find?_some (p := (name · == text)) h
    refine .inl ⟨v, fun w => ⟨fun hw => ?_, fun hw => ?_⟩, rfl⟩
    · rw [hw, hfound] at h
      exact Option.some.inj h
    · rw [hw, ← beq_iff_eq.1 hname]
  | none =>
    refine .inr ⟨fun w hw => ?_, rfl⟩
    rw [hw, hfound] at h
    cases h

namespace Argument

/-- A numeral and its number: ASCII digits, leading zeros included, perhaps behind a plus sign. -/
def Numeral (text : String) (n : Nat) : Prop :=
  ∃ digits, digits ≠ [] ∧ (∀ d ∈ digits, d.isDigit = true) ∧
    (text.toList = digits ∨ text.toList = '+' :: digits) ∧ n = Nat.ofDigitChars 10 digits 0

theorem numeral?_eq_some_iff {n : Nat} : numeral? text.toList = some n ↔ Numeral text n := by
  constructor
  · intro h
    by_cases hplus : text.toList.head? = some '+'
    · obtain ⟨digits, htext⟩ := List.head?_eq_some_iff.1 hplus
      obtain ⟨⟨hne, hdigits⟩, rfl⟩ : (digits ≠ [] ∧ ∀ d ∈ digits, d.isDigit = true) ∧
          Nat.ofDigitChars 10 digits 0 = n := by simpa [numeral?, htext] using h
      exact ⟨digits, hne, hdigits, .inr htext, rfl⟩
    · obtain ⟨⟨hne, hdigits⟩, rfl⟩ : (text.toList ≠ [] ∧ ∀ d ∈ text.toList, d.isDigit = true) ∧
          Nat.ofDigitChars 10 text.toList 0 = n := by simpa [numeral?, hplus] using h
      exact ⟨text.toList, hne, hdigits, .inl rfl, rfl⟩
  · rintro ⟨digits, hne, hdigits, htext | htext, rfl⟩
    · have hplus : digits.head? ≠ some '+' := fun h => by
        cases hdigits '+' (List.mem_of_head? h)
      simpa [numeral?, htext, hplus, hne] using hdigits
    · simpa [numeral?, htext, hne] using hdigits

theorem readColor_cases (text : String) :
    (∃ mode, (∀ w : ColorMode, text = w.name ↔ w = mode) ∧ readColor text = .ok mode) ∨
      (∀ w : ColorMode, text ≠ w.name) ∧ readColor text = .error (.color text) := by
  rw [readColor, ColorMode.ofName?]
  obtain ⟨mode, htext, hname⟩ | ⟨hne, hname⟩ :=
    find?_name_cases ColorMode.all ColorMode.name (fun v => by cases v <;> decide) text
  · exact .inl ⟨mode, htext, by rw [hname]⟩
  · exact .inr ⟨hne, by rw [hname]⟩

theorem readErrorFormat_cases (text : String) :
    (∃ format, (∀ w : ReportFormat, text = w.name ↔ w = format) ∧
        readErrorFormat text = .ok format) ∨
      (∀ w : ReportFormat, text ≠ w.name) ∧
        readErrorFormat text = .error (.errorFormat text) := by
  rw [readErrorFormat, ReportFormat.ofName?]
  obtain ⟨format, htext, hname⟩ | ⟨hne, hname⟩ :=
    find?_name_cases ReportFormat.all ReportFormat.name (fun v => by cases v <;> decide) text
  · exact .inl ⟨format, htext, by rw [hname]⟩
  · exact .inr ⟨hne, by rw [hname]⟩

theorem readGrammar_cases (text : String) :
    (∃ g, (∀ w : CharGrammar, text = w.name ↔ w = g) ∧ readGrammar text = .ok g) ∨
      (∀ w : CharGrammar, text ≠ w.name) ∧ readGrammar text = .error (.grammar text) := by
  rw [readGrammar, CharGrammar.ofName?]
  obtain ⟨g, htext, hname⟩ | ⟨hne, hname⟩ :=
    find?_name_cases CharGrammar.all CharGrammar.name (fun v => by cases v <;> decide) text
  · exact .inl ⟨g, htext, by rw [hname]⟩
  · exact .inr ⟨hne, by rw [hname]⟩

theorem readMaxDepth_cases (text : String) :
    (∃ n, (∀ m, Numeral text m ∧ 1 ≤ m ∧ m < UInt64.size ↔ m = n) ∧ readMaxDepth text = .ok n) ∨
      (∀ n, ¬ (Numeral text n ∧ 1 ≤ n ∧ n < UInt64.size)) ∧
        readMaxDepth text = .error (.maxDepth text) := by
  have hlargest : UInt64.size = largestLimit + 1 := rfl
  simp only [← numeral?_eq_some_iff, readMaxDepth, hlargest, Nat.lt_succ_iff]
  cases hn : numeral? text.toList with
  | none => exact .inr ⟨by simp, rfl⟩
  | some n =>
    by_cases hrange : 1 ≤ n ∧ n ≤ largestLimit
    · refine .inl ⟨n, fun m => ⟨fun hm => (Option.some.inj hm.1).symm, ?_⟩, if_pos hrange⟩
      rintro rfl
      exact ⟨rfl, hrange⟩
    · refine .inr ⟨?_, if_neg hrange⟩
      rintro m ⟨hm, hm'⟩
      cases hm
      exact hrange hm'

/-- The options of a run that take a value. -/
inductive Valued where
  | color
  | errorFormat
  | maxDepth
  | grammar

namespace Valued

/-- What stands before the value. -/
def key : Valued → String
  | color => "--color="
  | errorFormat => "--error-format="
  | maxDepth => "--max-depth="
  | grammar => "--grammar="

/-- The fault of a value that the option does not take. -/
def invalid : Valued → String → InvalidValue
  | color => .color
  | errorFormat => .errorFormat
  | maxDepth => .maxDepth
  | grammar => .grammar

/-- The values that an option takes, with what they set. -/
def Takes : Valued → String → Setting → Prop
  | color, text, s => ∃ mode : ColorMode, text = mode.name ∧ s = .color mode
  | errorFormat, text, s => ∃ format : ReportFormat, text = format.name ∧ s = .errorFormat format
  | maxDepth, text, s => ∃ n, (Numeral text n ∧ 1 ≤ n ∧ n < UInt64.size) ∧ s = .maxDepth n
  | grammar, text, s => ∃ g : CharGrammar, text = g.name ∧ s = .grammar g

def read : Valued → String → Argument
  | color, text => setting .color (readColor text)
  | errorFormat, text => setting .errorFormat (readErrorFormat text)
  | maxDepth, text => setting .maxDepth (readMaxDepth text)
  | grammar, text => setting .grammar (readGrammar text)

theorem mem_keys (x : Valued) : (x.key, x.read) ∈ keys := by
  cases x with
  | color => exact .tail _ (.head _)
  | errorFormat => exact .tail _ (.tail _ (.head _))
  | maxDepth => exact .tail _ (.tail _ (.tail _ (.head _)))
  | grammar => exact .tail _ (.tail _ (.tail _ (.tail _ (.head _))))

theorem setting_cases {α : Type} {make : α → Setting} {value : Except InvalidValue α}
    {e : InvalidValue} {P : α → Prop}
    (h : (∃ v, (∀ w, P w ↔ w = v) ∧ value = .ok v) ∨ (∀ w, ¬ P w) ∧ value = .error e) :
    (∃ s, (∀ t, (∃ v, P v ∧ t = make v) ↔ t = s) ∧ setting make value = .set s) ∨
      (∀ t, ¬ ∃ v, P v ∧ t = make v) ∧ setting make value = .stop (.error (.invalidValue e)) := by
  obtain ⟨v, hv, rfl⟩ | ⟨hnone, rfl⟩ := h
  · exact .inl ⟨make v, fun t => by simp [hv], rfl⟩
  · exact .inr ⟨fun t => by simp [hnone], rfl⟩

/-- A value is taken or it is a fault. -/
theorem read_cases (x : Valued) (text : String) :
    (∃ s, (∀ t, x.Takes text t ↔ t = s) ∧ x.read text = .set s) ∨
      (∀ t, ¬ x.Takes text t) ∧ x.read text = .stop (.error (.invalidValue (x.invalid text))) := by
  cases x with
  | color => exact setting_cases (readColor_cases text)
  | errorFormat => exact setting_cases (readErrorFormat_cases text)
  | maxDepth => exact setting_cases (readMaxDepth_cases text)
  | grammar => exact setting_cases (readGrammar_cases text)

end Valued

end Argument

end FrontEnd

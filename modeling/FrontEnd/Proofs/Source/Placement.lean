-- SUMMARY: Which characters a reader hands out and where: each at the position that the text before it gives.
import FrontEnd.Source.Reader
import Mathlib.Data.List.DropRight

/-!
# Placement

A reader counts lines and columns as it goes. Here positions are read off the
text instead: a character stands on the line after as many newlines as there are
before it, and in the column after the characters between the last newline and
itself. `Reader.Passed` ties the two together.

Positions wrap around as words do, and no bound on the text is needed to compare
them. The numbers themselves are right as long as they are words.
-/

namespace FrontEnd

open Unicode

-- ---------------------------------------------------------------------------
-- Lines
-- ---------------------------------------------------------------------------

namespace Source

/-- The beginning of the line that a text leaves off in: what stands behind its last newline. -/
def lastLine (before : List Char) : List Char :=
  before.rtakeWhile (· != '\n')

variable {before v : List Char} {c : Char}

@[simp] theorem lastLine_nil : lastLine [] = [] :=
  List.rtakeWhile_nil _

@[simp] theorem lastLine_newline (before : List Char) : lastLine (before ++ ['\n']) = [] :=
  List.rtakeWhile_concat_neg _ _ _ (by decide)

theorem lastLine_concat (h : c ≠ '\n') : lastLine (before ++ [c]) = lastLine before ++ [c] :=
  List.rtakeWhile_concat_pos _ _ _ (by simpa using h)

/-- A line begins behind a newline, whatever stands before it. -/
theorem lastLine_append_newline_append (before v : List Char) :
    lastLine (before ++ '\n' :: v) = lastLine v := by
  induction v using List.reverseRecOn with
  | nil => simp
  | append_singleton v c ih =>
    rw [← List.cons_append, ← List.append_assoc]
    by_cases hc : c = '\n'
    · rw [hc, lastLine_newline, lastLine_newline]
    · rw [lastLine_concat hc, lastLine_concat hc, ih]

theorem lastLine_append (h : '\n' ∉ v) : lastLine (before ++ v) = lastLine before ++ v := by
  induction v using List.reverseRecOn with
  | nil => simp
  | append_singleton v c ih =>
    obtain ⟨hv, hc⟩ : '\n' ∉ v ∧ '\n' ≠ c := by simpa using h
    rw [← List.append_assoc, lastLine_concat hc.symm, ih hv, List.append_assoc]

theorem lastLine_eq_self (h : '\n' ∉ v) : lastLine v = v :=
  List.rtakeWhile_eq_self_iff.2 fun c hc => by
    have : c ≠ '\n' := fun heq => h (heq ▸ hc)
    simpa using this

theorem length_lastLine_le (before : List Char) : (lastLine before).length ≤ before.length :=
  (List.rtakeWhile_suffix _ _).length_le

end Source

open Source

-- ---------------------------------------------------------------------------
-- Positions
-- ---------------------------------------------------------------------------

namespace Position

/-- The position behind a text. -/
def after (before : List Char) : Position :=
  ⟨UInt32.ofNat (1 + before.count '\n'), UInt32.ofNat (1 + (lastLine before).length)⟩

/-- The position of the end of a text. It is in the first column even where the last line is not
over. -/
def atEnd (text : List Char) : Position :=
  ⟨UInt32.ofNat (1 + text.count '\n'), 1⟩

/-- As long as there are words enough to count the characters, lines and columns are numbers. -/
theorem toNat_after {before : List Char} (h : before.length < UInt32.size - 1) :
    (after before).line.toNat = 1 + before.count '\n' ∧
      (after before).column.toNat = 1 + (lastLine before).length := by
  have hcount : before.count '\n' ≤ before.length := List.count_le_length
  have hline := length_lastLine_le before
  exact ⟨UInt32.toNat_ofNat_of_lt' (by omega),
    UInt32.toNat_ofNat_of_lt' (by omega)⟩

theorem toNat_line_atEnd {text : List Char} (h : text.length < UInt32.size - 1) :
    (atEnd text).line.toNat = 1 + text.count '\n' := by
  have hcount : text.count '\n' ≤ text.length := List.count_le_length
  exact UInt32.toNat_ofNat_of_lt' (by omega)

end Position

/-- What is handed out for the character `c` behind the text `before`. -/
def Located.after (before : List Char) (c : Char) : Located :=
  ⟨if c = '\n' && (lastLine before).all isWhiteSpace then ' ' else c, .after before⟩

@[simp] theorem Located.position_after (before : List Char) (c : Char) :
    (Located.after before c).position = .after before := rfl

/-- What is handed out for a text behind the text `before`. -/
def located (before : List Char) : List Char → List Located
  | [] => []
  | c :: cs => .after before c :: located (before ++ [c]) cs

section located

variable {before cs ds : List Char} {c : Char} {xs ys : List Located} {x : Located}

@[simp] theorem located_nil (before : List Char) : located before [] = [] := rfl
@[simp] theorem located_cons (before : List Char) (c : Char) (cs : List Char) :
    located before (c :: cs) = .after before c :: located (before ++ [c]) cs := rfl

theorem located_append (before cs ds : List Char) :
    located before (cs ++ ds) = located before cs ++ located (before ++ cs) ds := by
  induction cs generalizing before with
  | nil => simp
  | cons c cs ih => simp [ih]

theorem located_eq_nil (h : located before cs = []) : cs = [] := by
  cases cs with
  | nil => rfl
  | cons c cs => cases h

theorem located_eq_cons (h : located before cs = x :: xs) :
    ∃ d ds, cs = d :: ds ∧ x = .after before d ∧ xs = located (before ++ [d]) ds := by
  cases cs with
  | nil => cases h
  | cons d ds =>
    obtain ⟨hx, hxs⟩ := List.cons.inj h
    exact ⟨d, ds, rfl, hx.symm, hxs.symm⟩

theorem located_eq_append (h : located before cs = xs ++ ys) :
    ∃ ds es, cs = ds ++ es ∧ xs = located before ds ∧ ys = located (before ++ ds) es := by
  induction xs generalizing before cs with
  | nil => exact ⟨[], cs, rfl, rfl, by simpa using h.symm⟩
  | cons x xs ih =>
    obtain ⟨d, rest, rfl, rfl, hxs⟩ := located_eq_cons h
    obtain ⟨ds, es, rfl, rfl, rfl⟩ := ih hxs.symm
    exact ⟨d :: ds, es, rfl, rfl, by simp⟩

end located

-- ---------------------------------------------------------------------------
-- Readers
-- ---------------------------------------------------------------------------

namespace Reader

variable {r : Reader} {before cs : List Char} {c : Char}

/-- The reader has handed out the text `before`. -/
structure Passed (r : Reader) (before : List Char) : Prop where
  position : r.onLine.position =
    ⟨UInt32.ofNat (1 + before.count '\n'), UInt32.ofNat (lastLine before).length⟩
  blankLine : r.onLine.blankLine = (lastLine before).all isWhiteSpace

theorem passed_ofText (text : String) : (ofText text).Passed [] :=
  ⟨rfl, rfl⟩

theorem onLine_of_not_lineEnded (h : r.lineEnded = false) : r.onLine = r := by
  simp [onLine, h]

theorem position_onLine_of_lineEnded (h : r.lineEnded = true) :
    r.onLine.position = ⟨r.position.line + 1, 0⟩ := by
  simp [onLine, h]

theorem blankLine_onLine_of_lineEnded (h : r.lineEnded = true) : r.onLine.blankLine = true := by
  simp [onLine, h]

/-- A read hands out the next character at its position. -/
theorem Passed.next_fst (h : r.Passed before) (hrest : r.rest = c :: cs) :
    r.next.1 = some (Located.after before c).char := by
  have hspace : isWhiteSpace '\n' = true := by decide
  by_cases hc : c = '\n'
  · simp [next, hrest, h.blankLine, hc, hspace, Located.after]
  · simp [next, hrest, hc, Located.after]

theorem Passed.position_next (h : r.Passed before) (hrest : r.rest = c :: cs) :
    r.next.2.position = .after before := by
  simp only [next, hrest, h.position, Position.after, Nat.add_comm 1 (lastLine before).length,
    UInt32.ofNat_add]
  rfl

theorem Passed.step (h : r.Passed before) (hrest : r.rest = c :: cs) :
    r.next.2.Passed (before ++ [c]) := by
  have hposition := h.position_next hrest
  by_cases hc : c = '\n'
  · subst hc
    have hended : r.next.2.lineEnded = true := by simp [next, hrest]
    constructor
    · rw [position_onLine_of_lineEnded hended, hposition, Position.after, lastLine_newline,
        List.count_append, List.count_singleton_self, ← Nat.add_assoc, UInt32.ofNat_add _ 1]
      rfl
    · rw [blankLine_onLine_of_lineEnded hended, lastLine_newline, List.all_nil]
  · have hended : r.next.2.lineEnded = false := by simp [next, hrest, hc]
    constructor
    · rw [onLine_of_not_lineEnded hended, hposition, Position.after, lastLine_concat hc,
        List.count_append, List.count_singleton, List.length_append, List.length_singleton]
      simp [hc, Nat.add_comm]
    · rw [onLine_of_not_lineEnded hended, lastLine_concat hc, List.all_append]
      simp [next, hrest, h.blankLine]

/-- The read that finds no character is left at the end of the text. -/
theorem Passed.position_next_of_nil (h : r.Passed before) (hrest : r.rest = []) :
    r.next.2.position = .atEnd before := by
  simp only [next, hrest, h.position]
  rfl

/-- Reading to the end hands out the rest of the text and ends at its end. -/
theorem Passed.drain (h : r.Passed before) (hrest : r.rest = cs) :
    r.drain.1 = located before cs ∧ r.drain.2.position = .atEnd (before ++ cs) := by
  induction cs generalizing r before with
  | nil =>
    rw [drain_nil hrest, List.append_nil]
    exact ⟨rfl, h.position_next_of_nil hrest⟩
  | cons c cs ih =>
    have hnext : r.next = (some (Located.after before c).char, r.next.2) :=
      Prod.ext (h.next_fst hrest) rfl
    obtain ⟨hchars, hposition⟩ := ih (h.step hrest) (by rw [rest_next, hrest, List.tail_cons])
    rw [drain_cons hnext, hchars, hposition, h.position_next hrest, List.append_assoc]
    exact ⟨rfl, rfl⟩

theorem drain_ofText (text : String) :
    (ofText text).drain.1 = located [] text.toList ∧
      (ofText text).drain.2.position = .atEnd text.toList :=
  (passed_ofText text).drain rfl

end Reader

end FrontEnd

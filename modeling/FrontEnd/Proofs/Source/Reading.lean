-- SUMMARY: What each read of a text returns and where it leaves the reader, by the number of the read.
import FrontEnd.Proofs.Source.Placement
import Mathlib.Logic.Function.Iterate

/-!
# Reading

The reads of a text are numbered from zero. As long as there are characters, the
read with a number hands out the character with that index and is left at its
position (`Passed`). All later reads return nothing and are left at the end of
the text (`Ended`), where a read changes nothing.

The counters of a reader are words. A text that is shorter than the largest word
never makes one of them wrap around (`Countable`).
-/

namespace FrontEnd

open Unicode Source

namespace Reader

variable {r : Reader} {before text : List Char} {c : Char}

/-- The reader behind the first `k` reads of a text. -/
def afterReads (text : String) (k : Nat) : Reader :=
  (·.next.2)^[k] (ofText text)

theorem afterReads_succ (text : String) (k : Nat) :
    afterReads text (k + 1) = (afterReads text k).next.2 :=
  Function.iterate_succ_apply' _ _ _

-- ---------------------------------------------------------------------------
-- Behind the last character
-- ---------------------------------------------------------------------------

/-- A read has found the end of the text. -/
structure Ended (r : Reader) (text : List Char) : Prop where
  rest : r.rest = []
  lineEnded : r.lineEnded = false
  position : r.position = .atEnd text

/-- Behind the end a read changes nothing. -/
theorem Ended.next (h : r.Ended text) : r.next = (none, r) := by
  obtain ⟨rest, position, lineEnded, blankLine⟩ := r
  obtain ⟨rfl, rfl, rfl⟩ := h
  rfl

/-- The first read behind the last character finds the end. -/
theorem Passed.ended (h : r.Passed text) (hrest : r.rest = []) :
    r.next.1 = none ∧ r.next.2.Ended text := by
  refine ⟨(next_fst_eq_none_iff r).2 hrest, ?_, ?_, h.position_next_of_nil hrest⟩
  · rw [rest_next, hrest, List.tail_nil]
  · simp [Reader.next, hrest]

-- ---------------------------------------------------------------------------
-- Runs of reads
-- ---------------------------------------------------------------------------

theorem passed_afterReads (text : String) {k : Nat} (h : k ≤ text.length) :
    (afterReads text k).Passed (text.toList.take k) ∧
      (afterReads text k).rest = text.toList.drop k := by
  induction k with
  | zero => exact ⟨passed_ofText text, rfl⟩
  | succ k ih =>
    obtain ⟨hpassed, hrest⟩ := ih (Nat.le_of_succ_le h)
    have hk : k < text.toList.length := by rwa [String.length_toList]
    rw [List.drop_eq_getElem_cons hk] at hrest
    rw [afterReads_succ, List.take_succ_eq_append_getElem hk]
    refine ⟨hpassed.step hrest, ?_⟩
    rw [rest_next, hrest, List.tail_cons]

/-- From the read behind the last character on, reads find the end. -/
theorem next_afterReads (text : String) {k : Nat} (h : text.length ≤ k) :
    (afterReads text k).next.1 = none ∧ (afterReads text k).next.2.Ended text.toList := by
  induction k, h using Nat.le_induction with
  | base =>
    obtain ⟨hpassed, hrest⟩ := passed_afterReads text (Nat.le_refl _)
    have hlength : text.length = text.toList.length := String.length_toList.symm
    rw [hlength, List.take_length] at hpassed
    rw [hlength, List.drop_length] at hrest
    rw [hlength]
    exact hpassed.ended hrest
  | succ k _ ih =>
    obtain ⟨-, hended⟩ := ih
    rw [afterReads_succ, hended.next]
    exact ⟨rfl, hended⟩

-- ---------------------------------------------------------------------------
-- Counters
-- ---------------------------------------------------------------------------

/-- The next read adds to no counter that is the largest word. -/
structure Countable (r : Reader) : Prop where
  line : r.lineEnded = true → r.position.line.toNat + 1 < UInt32.size
  column : r.rest ≠ [] → r.onLine.position.column.toNat + 1 < UInt32.size

theorem Passed.countable (h : r.Passed before) (hlength : before.length < UInt32.size - 1) :
    r.Countable := by
  constructor
  case line =>
    intro hended
    have hcount : before.count '\n' ≤ before.length := List.count_le_length
    have hposition := h.position
    rw [position_onLine_of_lineEnded hended] at hposition
    -- Were the line the largest word, the next one would be zero.
    have hline : (r.position.line.toNat + 1) % UInt32.size = 1 + before.count '\n' := by
      have hnext := congrArg (UInt32.toNat ·.line) hposition
      rwa [UInt32.toNat_add, UInt32.toNat_ofNat_of_lt' (by omega)] at hnext
    have hle : r.position.line.toNat + 1 ≤ UInt32.size := r.position.line.toNat_lt_size
    obtain hlt | heq := Nat.lt_or_eq_of_le hle
    · exact hlt
    · rw [heq, Nat.mod_self] at hline
      omega
  case column =>
    intro _
    have hline := length_lastLine_le before
    rw [h.position, UInt32.toNat_ofNat_of_lt' (by omega)]
    omega

theorem Ended.countable (h : r.Ended text) : r.Countable where
  line hended := by simp [h.lineEnded] at hended
  column hrest := absurd h.rest hrest

theorem countable_afterReads (text : String) (hlength : text.length < UInt32.size - 1) (k : Nat) :
    (afterReads text k).Countable := by
  rcases Nat.lt_or_ge text.length k with hlt | hle
  · obtain ⟨k, rfl⟩ := Nat.exists_eq_succ_of_ne_zero (Nat.ne_zero_of_lt hlt)
    rw [afterReads_succ]
    exact (next_afterReads text (Nat.le_of_lt_succ hlt)).2.countable
  · apply (passed_afterReads text hle).1.countable
    rw [List.length_take]
    omega

-- ---------------------------------------------------------------------------
-- Every read
-- ---------------------------------------------------------------------------

/-- The read with the index of a character returns it, but for the newline of a blank line, which is
returned as a space. It is left at the line and the column that the text in front of the character
gives. Every later read returns nothing and is left in the first column of the last line. No read
counts over the largest word. -/
theorem ofText_reads (text : String) (hlength : text.length < UInt32.size - 1) (k : Nat) :
    (afterReads text k).Countable ∧
    (∀ c ∈ text.toList[k]?,
      (afterReads text k).next.1 =
        some (if c = '\n' ∧ (lastLine (text.toList.take k)).all isWhiteSpace then ' ' else c) ∧
      (afterReads text k).next.2.position.line.toNat = 1 + (text.toList.take k).count '\n' ∧
      (afterReads text k).next.2.position.column.toNat =
        1 + (lastLine (text.toList.take k)).length) ∧
    (text.length ≤ k →
      (afterReads text k).next.1 = none ∧
      (afterReads text k).next.2.position.line.toNat = 1 + text.toList.count '\n' ∧
      (afterReads text k).next.2.position.column = 1) := by
  refine ⟨countable_afterReads text hlength k, fun c hc => ?_, fun hle => ?_⟩
  · obtain ⟨hk, rfl⟩ := List.getElem?_eq_some_iff.1 hc
    have hlt : k < text.length := by rwa [String.length_toList] at hk
    have hshort : (text.toList.take k).length < UInt32.size - 1 := by
      rw [List.length_take]
      omega
    obtain ⟨hpassed, hrest⟩ := passed_afterReads text (Nat.le_of_lt hlt)
    rw [List.drop_eq_getElem_cons hk] at hrest
    rw [hpassed.next_fst hrest, hpassed.position_next hrest]
    exact ⟨by simp [Located.after], Position.toNat_after hshort⟩
  · obtain ⟨hnone, hended⟩ := next_afterReads text hle
    rw [hended.position]
    exact ⟨hnone, Position.toNat_line_atEnd (by rwa [String.length_toList]), rfl⟩

/-- The newline of a line with a tab on it is returned as a space. Behind the second line, the read
after the last and the one after that find its end. -/
theorem ofText_reads_blank_line :
    "\t\nx".length < UInt32.size - 1 ∧
      (afterReads "\t\nx" 1).next.1 = some ' ' ∧
      (afterReads "\t\nx" 1).next.2.position.column.toNat = 2 ∧
      (afterReads "\t\nx" 2).next.1 = some 'x' ∧
      (afterReads "\t\nx" 2).next.2.position.line.toNat = 2 ∧
      ∀ k ∈ [3, 4], (afterReads "\t\nx" k).next.1 = none ∧
        (afterReads "\t\nx" k).next.2.position.line.toNat = 2 := by
  have hlength : "\t\nx".length < UInt32.size - 1 := by decide
  obtain ⟨-, hnewline, -⟩ := ofText_reads "\t\nx" hlength 1
  obtain ⟨-, hname, -⟩ := ofText_reads "\t\nx" hlength 2
  obtain ⟨hspace, -, hcolumn⟩ := hnewline '\n' rfl
  obtain ⟨hx, hline, -⟩ := hname 'x' rfl
  refine ⟨hlength, hspace, hcolumn, hx, hline, fun k hk => ?_⟩
  have hle : "\t\nx".length ≤ k := by
    have hall : ∀ k ∈ [3, 4], "\t\nx".length ≤ k := by decide
    exact hall k hk
  obtain ⟨-, -, hend⟩ := ofText_reads "\t\nx" hlength k
  exact ⟨(hend hle).1, (hend hle).2.1⟩

end Reader

end FrontEnd

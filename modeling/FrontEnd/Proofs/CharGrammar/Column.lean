-- SUMMARY: The column of a mismatch is one more than its offset and no more than the last column, and the last offset has no column.
import FrontEnd.Problem
import FrontEnd.Proofs.CharGrammar.Recognition

/-!
# Columns of mismatches

The diagnostic of a mismatch counts columns from one, so its column is the
successor of the offset. Offsets are words of 64 bits and columns are words of 32.
A successor that is no column is replaced by the last column. A successor that is
not even an offset is not caught: the addition overflows before its result is
compared with anything, and there is no diagnostic. This happens to the last
offset alone. Recognition comes to smaller offsets only, as long as its input has
fewer characters than there are offsets.
-/

namespace FrontEnd

namespace Mismatch

variable {e : Mismatch} {d : Diagnostic}

theorem eq_lastOffset_iff {offset : UInt64} :
    offset = lastOffset ↔ offset.toNat + 1 = UInt64.size := by
  rw [← UInt64.toNat_inj]
  have hlast : lastOffset.toNat + 1 = UInt64.size := rfl
  omega

theorem toNat_successor (h : e.offset ≠ lastOffset) :
    (e.offset + 1).toNat = e.offset.toNat + 1 := by
  rw [ne_eq, eq_lastOffset_iff] at h
  have hsize : e.offset.toNat < UInt64.size := e.offset.toNat_lt
  have hsucc : e.offset.toNat + 1 < UInt64.size := by omega
  rw [UInt64.toNat_add]
  exact Nat.mod_eq_of_lt hsucc

theorem column?_of_eq (h : e.offset = lastOffset) : e.column? = none := by
  rw [column?, successor?, if_pos h]
  rfl

/-- Every other offset has a column. -/
theorem exists_column? (h : e.offset ≠ lastOffset) :
    ∃ column, e.column? = some column ∧
      column.toNat = min (e.offset.toNat + 1) (UInt32.size - 1) := by
  have hsucc := toNat_successor h
  have hle : e.offset + 1 ≤ lastColumn.toUInt64 ↔ e.offset.toNat + 1 ≤ UInt32.size - 1 := by
    rw [UInt64.le_iff_toNat_le, hsucc]
    rfl
  rw [column?, successor?, if_neg h]
  refine ⟨_, rfl, ?_⟩
  simp only [hle]
  split
  · next hfits =>
    rw [UInt64.toNat_toUInt32, hsucc, Nat.min_eq_left hfits]
    exact Nat.mod_eq_of_lt (Nat.lt_of_le_of_lt hfits (by decide))
  · next hover =>
    have hlast : lastColumn.toNat = UInt32.size - 1 := rfl
    rw [hlast, Nat.min_eq_right (by omega)]

theorem toDiagnostic?_eq_none_iff : e.toDiagnostic? = none ↔ e.offset = lastOffset := by
  rw [toDiagnostic?, Option.map_eq_none_iff]
  refine ⟨fun hnone => Decidable.not_not.1 fun h => ?_, column?_of_eq⟩
  obtain ⟨column, hcolumn, -⟩ := exists_column? h
  cases hnone.symm.trans hcolumn

theorem location_of_toDiagnostic? (h : e.toDiagnostic? = some d) :
    ∃ column, d.location = some ⟨e.lexeme, ⟨1, column⟩⟩ ∧
      column.toNat = min (e.offset.toNat + 1) (UInt32.size - 1) := by
  have hoffset : e.offset ≠ lastOffset := fun heq => by
    cases (toDiagnostic?_eq_none_iff.2 heq).symm.trans h
  obtain ⟨column, hcolumn, hmin⟩ := exists_column? hoffset
  rw [toDiagnostic?, hcolumn] at h
  obtain rfl := Option.some.inj h
  exact ⟨column, rfl, hmin⟩

/-- What a run would report is the diagnostic, where there is one. -/
theorem toDiagnostic?_eq_reported (h : e.offset ≠ lastOffset) :
    e.toDiagnostic? = some (Problem.mismatch e).reported := by
  obtain ⟨column, hcolumn, -⟩ := exists_column? h
  rw [toDiagnostic?, Problem.reported, hcolumn]
  rfl

/-- A mismatch with the last offset has no diagnostic. Every other one has a diagnostic in line 1,
whose column is

* the successor of the offset, or the last column where that is no column;
* not zero;
* not behind the column of a mismatch with a larger offset.

The mismatches that are found in an input of fewer characters than there are offsets have
diagnostics, which are what a run reports. -/
theorem toDiagnostic?_column (e : Mismatch) :
    (e.toDiagnostic? = none ↔ e.offset.toNat = UInt64.size - 1) ∧
    (∀ d, e.toDiagnostic? = some d → ∃ column, d.location = some ⟨e.lexeme, ⟨1, column⟩⟩ ∧
      column.toNat = min (e.offset.toNat + 1) (UInt32.size - 1) ∧ column ≠ 0) ∧
    (∀ (e' : Mismatch) d d', e.toDiagnostic? = some d → e'.toDiagnostic? = some d' →
      e.offset ≤ e'.offset →
        ∀ l ∈ d.location, ∀ l' ∈ d'.location, l.position.column ≤ l'.position.column) ∧
    ∀ g input, input.length < UInt64.size - 1 → CharGrammar.recognize g input = .error e →
      e.toDiagnostic? = some (Problem.mismatch e).reported := by
  have hsize : 0 < UInt64.size := by decide
  refine ⟨?_, fun d hd => ?_, fun e' d d' hd hd' hle l hl l' hl' => ?_,
    fun g input hlength hfound => ?_⟩
  · rw [toDiagnostic?_eq_none_iff, eq_lastOffset_iff]
    omega
  · obtain ⟨column, hlocation, hmin⟩ := location_of_toDiagnostic? hd
    refine ⟨column, hlocation, hmin, ?_⟩
    rw [ne_eq, ← UInt32.toNat_inj, hmin]
    exact Nat.ne_of_gt (Nat.lt_min.2 ⟨Nat.succ_pos _, by decide⟩)
  · obtain ⟨column, hlocation, hmin⟩ := location_of_toDiagnostic? hd
    obtain ⟨column', hlocation', hmin'⟩ := location_of_toDiagnostic? hd'
    obtain rfl := Option.some.inj (hlocation.symm.trans hl)
    obtain rfl := Option.some.inj (hlocation'.symm.trans hl')
    have hoffset : e.offset.toNat ≤ e'.offset.toNat := UInt64.le_iff_toNat_le.1 hle
    rw [UInt32.le_iff_toNat_le, hmin, hmin']
    omega
  · obtain ⟨hle, -⟩ := CharGrammar.found?_of_recognize (by omega) hfound
    refine toDiagnostic?_eq_reported fun heq => ?_
    rw [eq_lastOffset_iff] at heq
    omega

/-- At the last offset there is no diagnostic, although the last column is the column that it should
have. -/
theorem toDiagnostic?_last_offset :
    (trailing 'x' 0xFFFFFFFFFFFFFFFF).toDiagnostic? = none ∧
      min ((trailing 'x' 0xFFFFFFFFFFFFFFFF).offset.toNat + 1) (UInt32.size - 1) =
        UInt32.size - 1 :=
  ⟨rfl, rfl⟩

end Mismatch

end FrontEnd

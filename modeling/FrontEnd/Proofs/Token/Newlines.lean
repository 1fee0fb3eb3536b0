-- SUMMARY: The newline tokens of a text are the ends of its lines that are not blank.
import FrontEnd.Proofs.Token.Tiling
import Mathlib.Data.List.Chain

/-!
# Newline tokens

A newline is a token when there is more than white space on the line that it
ends (`Source.lineEnds`). So a newline token always has another token before it
on its line: none comes first in a text, and no two come one after the other.
-/

namespace FrontEnd

open Unicode Source

variable {before cs w : List Char} {c : Char} {finish : Position}

-- ---------------------------------------------------------------------------
-- Line ends
-- ---------------------------------------------------------------------------

namespace Source

/-- Whether a line with more than white space on it ends at an index of the text. -/
def endsFilledLine (text : List Char) (i : Nat) : Bool :=
  text[i]? == some '\n' && !(lastLine (text.take i)).all isWhiteSpace

/-- The indices at which filled lines end, of the characters `cs` behind `before`. -/
def lineEndsAfter (before cs : List Char) : List Nat :=
  (List.range' before.length cs.length).filter (endsFilledLine (before ++ cs))

/-- The indices at which the filled lines of a text end, in order. -/
def lineEnds (text : List Char) : List Nat :=
  (List.range text.length).filter (endsFilledLine text)

theorem lineEndsAfter_nil (text : List Char) : lineEndsAfter [] text = lineEnds text := by
  rw [lineEnds, List.range_eq_range']
  rfl

theorem endsFilledLine_append (before cs : List Char) (c : Char) :
    endsFilledLine (before ++ c :: cs) before.length =
      (c == '\n' && !(lastLine before).all isWhiteSpace) := by
  simp [endsFilledLine]

theorem lineEndsAfter_cons (before cs : List Char) (c : Char) :
    lineEndsAfter before (c :: cs) =
      if c = '\n' ∧ (lastLine before).all isWhiteSpace = false then
        before.length :: lineEndsAfter (before ++ [c]) cs
      else lineEndsAfter (before ++ [c]) cs := by
  have hrest : (List.range' (before.length + 1) cs.length).filter
      (endsFilledLine (before ++ c :: cs)) = lineEndsAfter (before ++ [c]) cs := by
    simp [lineEndsAfter]
  rw [lineEndsAfter, List.length_cons, List.range'_succ, List.filter_cons, hrest,
    endsFilledLine_append]
  simp

/-- Nothing ends where there is no newline. -/
theorem lineEndsAfter_append (h : '\n' ∉ w) :
    lineEndsAfter before (w ++ cs) = lineEndsAfter (before ++ w) cs := by
  induction w generalizing before with
  | nil => simp
  | cons d w ih =>
    have hd : d ≠ '\n' := fun hd => h (hd ▸ .head w)
    rw [List.cons_append, lineEndsAfter_cons, if_neg (by simp [hd]),
      ih fun hw => h (.tail d hw), List.append_assoc, List.singleton_append]

/-- Where a line is blank it stays blank under white space that is no token. -/
theorem blank_concat (hc : isWhiteSpace c = true)
    (hblank : (lastLine before).all isWhiteSpace = true) :
    (lastLine (before ++ [c])).all isWhiteSpace = true := by
  by_cases h : c = '\n'
  · rw [h, lastLine_newline, List.all_nil]
  · simpa [lastLine_concat h, hc] using hblank

end Source

-- ---------------------------------------------------------------------------
-- The scan
-- ---------------------------------------------------------------------------

/-- The newline token of the line that ends at an index. -/
def Token.newlineAt (text : List Char) (i : Nat) : Token :=
  ⟨.newline, "\n", .after (text.take i)⟩

namespace Lexed

/-- The newline tokens are those of the filled lines. -/
theorem newlines_scan (finish : Position) (before cs : List Char)
    (h : (scan finish (located before cs)).error = none) :
    (scan finish (located before cs)).tokens.filter (·.kind = .newline) =
      (lineEndsAfter before cs).map (Token.newlineAt (before ++ cs)) := by
  induction pieces before cs with
  | nil before =>
    rw [located_nil, scan_nil]
    rfl
  | @spacing before cs c hc hblank _ ih =>
    have hnot : ¬ (c = '\n' ∧ (lastLine before).all isWhiteSpace = false) := by
      rintro ⟨heq, hfilled⟩
      simp [hblank heq] at hfilled
    rw [scan_skip hc hblank] at h ⊢
    rw [ih h, lineEndsAfter_cons, if_neg hnot, List.append_assoc, List.singleton_append]
  | @token before cs w c σ hσ hfilled hw hstop _ ih =>
    rw [scan_piece hσ hfilled hw hstop] at h ⊢
    rw [tokens_behind, List.singleton_append]
    by_cases hc : c = '\n'
    · subst hc
      obtain rfl := Option.some.inj (Spelling.of?_newline.symm.trans hσ)
      obtain rfl := Spelling.eq_nil_of_symbol hw
      have htoken : (Spelling.symbol .newline).token (.after before) ['\n'] =
          Token.newlineAt (before ++ '\n' :: cs) before.length := by
        rw [Token.newlineAt, List.take_left]
        rfl
      rw [List.filter_cons_of_pos (by rfl), ih h, htoken, List.nil_append, lineEndsAfter_cons,
        if_pos ⟨rfl, hfilled rfl⟩, List.map_cons, List.append_assoc, List.singleton_append]
    · have hkind := mt (Spelling.kind_eq_newline_iff hσ (.ofList (c :: w))).1 hc
      rw [List.filter_cons_of_neg (by simpa using hkind), ih h, lineEndsAfter_cons,
        if_neg (by simp [hc]), lineEndsAfter_append (Spelling.newline_not_mem hσ hw),
        List.append_assoc, List.append_assoc, List.singleton_append, List.cons_append]
  | invalid hc hσ =>
    rw [scan_offending hc hσ] at h
    cases h

/-- No newline token comes first where the line before is blank, or behind another one. -/
theorem newlines_apart_scan (finish : Position) (before cs : List Char) :
    ((lastLine before).all isWhiteSpace = true →
      ∀ t ∈ (scan finish (located before cs)).tokens.head?, t.kind ≠ .newline) ∧
    (scan finish (located before cs)).tokens.IsChain fun t u =>
      t.kind = .newline → u.kind ≠ .newline := by
  induction pieces before cs with
  | nil before =>
    rw [located_nil, scan_nil]
    exact ⟨fun _ => by simp, .singleton _⟩
  | spacing hc hblank _ ih =>
    rw [scan_skip hc hblank]
    exact ⟨fun hline => ih.1 (blank_concat hc hline), ih.2⟩
  | @token before cs w c σ hσ hfilled hw hstop _ ih =>
    rw [scan_piece hσ hfilled hw hstop, tokens_behind, List.singleton_append, List.head?_cons,
      List.isChain_cons]
    refine ⟨fun hline t ht hkind => ?_, fun u hu hkind => ?_, ih.2⟩
    · obtain rfl := Option.some.inj ht
      have hc := (Spelling.kind_eq_newline_iff hσ _).1 hkind
      simp [hfilled hc] at hline
    · obtain rfl := (Spelling.kind_eq_newline_iff hσ _).1 hkind
      obtain rfl := Option.some.inj (Spelling.of?_newline.symm.trans hσ)
      obtain rfl := Spelling.eq_nil_of_symbol hw
      exact ih.1 (by rw [lastLine_newline, List.all_nil]) u hu
  | invalid hc hσ =>
    rw [scan_offending hc hσ]
    exact ⟨fun _ => by simp, .nil⟩

/-- The newline tokens of a text that scans to its end stand at the ends of its filled lines, one
for each. So none comes first and no two come one after the other. The list ends with its one
end-of-file token. -/
theorem ofText_newlines (text : String) (ts : Tokens) (hlength : text.length < UInt32.size)
    (h : (ofText text).result = .ok ts) :
    ((ts.filter (·.kind = .newline)).map fun t =>
        (t.position.line.toNat, t.position.column.toNat)) =
      ((lineEnds text.toList).map fun i =>
        (1 + (text.toList.take i).count '\n', 1 + (lastLine (text.toList.take i)).length)) ∧
    (∀ t ∈ ts.head?, t.kind ≠ .newline) ∧
    (ts.IsChain fun t u => ¬ (t.kind = .newline ∧ u.kind = .newline)) ∧
    ts.isTerminated = true ∧
    ∃ us finish, ts = us ++ [.endOfFile finish] ∧ ∀ t ∈ us, t.kind ≠ .endOfFile := by
  obtain ⟨us, hus, hend⟩ := exists_of_result_eq_ok h
  obtain ⟨herror, rfl⟩ := result_eq_ok h
  have hscan := ofText_eq text
  have hnewlines := newlines_scan (.atEnd text.toList) [] text.toList (hscan ▸ herror)
  obtain ⟨hhead, hchain⟩ := newlines_apart_scan (.atEnd text.toList) [] text.toList
  rw [← hscan] at hnewlines hhead hchain
  refine ⟨?_, hhead rfl, ?_, ?_, us, _, hend, hus⟩
  · rw [hnewlines, lineEndsAfter_nil, List.map_map]
    refine List.map_congr_left fun i hi => ?_
    have hlt : i < text.length := by
      rw [← String.length_toList]
      exact List.mem_range.1 (List.mem_filter.1 hi).1
    have hshort : (text.toList.take i).length < UInt32.size - 1 := by
      rw [List.length_take]
      omega
    obtain ⟨hline, hcolumn⟩ := Position.toNat_after hshort
    exact Prod.ext hline hcolumn
  · exact hchain.imp fun t u htu hboth => htu hboth.1 hboth.2
  · rw [hend]
    exact Tokens.isTerminated_append hus _

/-- Behind a blank line and one with a tab only, the one newline token is that of the third line. -/
theorem ofText_newlines_third_line :
    "\n\t\n x\n ".length < UInt32.size ∧
      (ofText "\n\t\n x\n ").result =
        .ok [⟨.name, "x", ⟨3, 2⟩⟩, ⟨.newline, "\n", ⟨3, 3⟩⟩, .endOfFile ⟨4, 1⟩] ∧
      lineEnds "\n\t\n x\n ".toList = [5] ∧
      [(3, 3)] = (lineEnds "\n\t\n x\n ".toList).map fun i =>
        (1 + ("\n\t\n x\n ".toList.take i).count '\n',
          1 + (lastLine ("\n\t\n x\n ".toList.take i)).length) := by
  have hlength : "\n\t\n x\n ".length < UInt32.size := by decide
  have hresult : (ofText "\n\t\n x\n ").result =
      .ok [⟨.name, "x", ⟨3, 2⟩⟩, ⟨.newline, "\n", ⟨3, 3⟩⟩, .endOfFile ⟨4, 1⟩] := by decide +kernel
  exact ⟨hlength, hresult, by decide +kernel, (ofText_newlines _ _ hlength hresult).1⟩

end Lexed

end FrontEnd

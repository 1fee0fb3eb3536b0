-- SUMMARY: What the newline that a text is completed with adds to its tokens.
import FrontEnd.Proofs.Token.Layout
import FrontEnd.Proofs.Token.Observing
import FrontEnd.Source.Basic

/-!
# Completed texts

A text whose last line is not over is given a newline. This changes nothing in
front of it: the tokens stay, and so does a character that starts none. The
newline is one more token, unless the last line is blank.

Whether the last line is blank can be told from the tokens: it is when there are
none or the last one is a newline (`Tokens.LineOver`). So the tokens of a
completed text end with a newline, unless there are none.
-/

namespace FrontEnd

open Unicode Source

variable {before cs w : List Char} {c : Char} {σ : Spelling} {finish : Position}
variable {seen us ts : Tokens} {s : String}

-- ---------------------------------------------------------------------------
-- Blank lines and tokens
-- ---------------------------------------------------------------------------

/-- Whether there is no token behind the last newline. -/
def Tokens.LineOver (ts : Tokens) : Prop :=
  ∀ t ∈ ts.getLast?, t.kind = .newline

theorem Tokens.lineOver_nil : LineOver [] := nofun

theorem Tokens.lineOver_concat {t : Token} : LineOver (seen ++ [t]) ↔ t.kind = .newline := by
  simp [LineOver]

/-- A line is blank behind a token when the token has ended the line before. -/
theorem Spelling.blank_iff (hσ : of? c = some σ) (hw : ∀ d ∈ w, σ.continues d = true) :
    (lastLine (before ++ c :: w)).all isWhiteSpace = true ↔ c = '\n' := by
  constructor
  · intro hblank
    by_contra hc
    have hline : '\n' ∉ c :: w := by
      intro hmem
      obtain heq | hmem := List.mem_cons.1 hmem
      · exact hc heq.symm
      · exact newline_not_mem hσ hw hmem
    rw [lastLine_append hline] at hblank
    have hwhite := List.all_eq_true.1 hblank c (by simp)
    exact hc ((isWhiteSpace_of_of? hσ "").2 hwhite)
  · rintro rfl
    obtain rfl := Option.some.inj (of?_newline.symm.trans hσ)
    obtain rfl := eq_nil_of_symbol hw
    rw [lastLine_newline, List.all_nil]

namespace Lexed

/-- A scan keeps up whether the line is blank with whether a newline came last. -/
theorem blank_iff_lineOver
    (h : (lastLine before).all isWhiteSpace = true ↔ seen.LineOver)
    (hscan : scan finish (located before cs) = { tokens := us ++ [.endOfFile finish] }) :
    (lastLine (before ++ cs)).all isWhiteSpace = true ↔ (seen ++ us).LineOver := by
  induction pieces before cs generalizing seen us with
  | nil before =>
    rw [located_nil, scan_nil] at hscan
    obtain rfl : us = [] := by simpa using congrArg tokens hscan
    rwa [List.append_nil, List.append_nil]
  | @spacing before cs c hc hblank _ ih =>
    have hskipped : Skipped before [c] :=
      ⟨by simpa using hc, fun hmem => hblank (List.mem_singleton.1 hmem).symm⟩
    rw [scan_skip hc hblank] at hscan
    rw [← hskipped.blank_append] at h
    have hrest := ih h hscan
    rwa [List.append_assoc, List.singleton_append] at hrest
  | @token before cs w c σ hσ hfilled hw hstop _ ih =>
    rw [scan_piece hσ hfilled hw hstop] at hscan
    obtain ⟨ts, -, hts | ⟨e, he⟩⟩ := scan_cases finish (located (before ++ c :: w) cs)
    · rw [hts] at hscan
      obtain rfl : σ.token (.after before) (c :: w) :: ts = us :=
        List.append_cancel_right (congrArg tokens hscan)
      have htoken : (seen ++ [σ.token (.after before) (c :: w)]).LineOver ↔ c = '\n' :=
        Tokens.lineOver_concat.trans (Spelling.kind_eq_newline_iff hσ _)
      have hrest := ih ((Spelling.blank_iff hσ hw).trans htoken.symm) hts
      simpa using hrest
    · rw [he] at hscan
      cases congrArg error hscan
  | invalid hc hσ =>
    rw [scan_offending hc hσ] at hscan
    cases congrArg error hscan

/-- The tokens of a completed text end with a newline, unless there are none. -/
theorem lineOver_of_completed (h : (ofText (completed s)).result = .ok ts) :
    ∃ us finish, Tokens.LineOver us ∧ ts = us ++ [.endOfFile finish] := by
  obtain ⟨us, -, rfl⟩ := exists_of_result_eq_ok h
  obtain ⟨herror, htokens⟩ := result_eq_ok h
  have hscan : scan (.atEnd (completed s).toList) (located [] (completed s).toList) =
      { tokens := us ++ [.endOfFile (.atEnd (completed s).toList)] } := by
    rw [← ofText_eq, ← htokens, ← herror]
  have hempty : (lastLine []).all isWhiteSpace = true ↔ Tokens.LineOver [] :=
    iff_of_true rfl Tokens.lineOver_nil
  obtain ⟨v, hv⟩ : ∃ v, (completed s).toList = v ++ ['\n'] := by
    apply List.getLast?_eq_some_iff.1
    simpa [endsLine] using endsLine_completed s
  refine ⟨us, _, (blank_iff_lineOver hempty hscan).1 ?_, rfl⟩
  rw [List.nil_append, hv, lastLine_newline, List.all_nil]

-- ---------------------------------------------------------------------------
-- One more newline
-- ---------------------------------------------------------------------------

/-- The token of a newline behind a text. -/
def closing (text : List Char) : Tokens :=
  if (lastLine text).all isWhiteSpace then [] else [⟨.newline, "\n", .after text⟩]

theorem scan_closing (finish : Position) (text : List Char) :
    scan finish (located text ['\n']) = { tokens := closing text ++ [.endOfFile finish] } := by
  unfold closing
  split
  · next hblank =>
    rw [scan_skip (by decide) fun _ => hblank, located_nil, scan_nil, List.nil_append]
  · next hfilled =>
    have hpiece := @scan_piece text [] [] '\n' _ finish Spelling.of?_newline
      (fun _ => Bool.eq_false_iff.2 hfilled) (by simp) (by simp)
    rw [List.nil_append, located_nil, scan_nil] at hpiece
    exact hpiece

/-- A text without a newline at its end is scanned, and then the newline that it is given. -/
theorem ofText_completed_of_not_endsLine (h : endsLine s = false) :
    ofText (completed s) = (ofText s).andThen
      { tokens := closing s.toList ++ [.endOfFile (.atEnd (s.toList ++ ['\n']))] } := by
  have hcompleted : (completed s).toList = s.toList ++ ['\n'] := by
    rw [toList_completed, h]
    rfl
  have hsevered : Severed s.toList ['\n'] := LineEnd.severed (.inr rfl) _
  rw [ofText_eq, ofText_eq, hcompleted, located_append, List.nil_append,
    scan_append (.atEnd s.toList) hsevered.apart, scan_closing]

/-- A character that starts no token is in front of the newline. -/
theorem ofText_completed_of_error {e : InvalidCharacter} (h : (ofText s).result = .error e) :
    ofText (completed s) = ofText s := by
  cases hends : endsLine s with
  | true => rw [completed_of_endsLine hends]
  | false => rw [ofText_completed_of_not_endsLine hends, andThen, result_eq_error h]

theorem result_completed_of_endsLine (h : (ofText s).result = .ok ts) (hends : endsLine s = true) :
    (ofText (completed s)).result = .ok ts := by
  rwa [completed_of_endsLine hends]

theorem result_completed_of_not_endsLine (h : (ofText s).result = .ok ts)
    (hends : endsLine s = false) :
    ∃ us finish, ts = us ++ [.endOfFile finish] ∧ (ofText (completed s)).result =
      .ok (us ++ closing s.toList ++ [.endOfFile (.atEnd (s.toList ++ ['\n']))]) := by
  obtain ⟨herror, htokens⟩ := result_eq_ok h
  obtain ⟨us, -, rfl⟩ := exists_of_result_eq_ok h
  refine ⟨us, _, rfl, ?_⟩
  rw [ofText_completed_of_not_endsLine hends, andThen, herror, htokens, List.dropLast_concat,
    List.append_assoc]
  rfl

theorem completed_fails_iff :
    (∃ e, (ofText (completed s)).result = .error e) ↔ ∃ e, (ofText s).result = .error e := by
  constructor
  · rintro ⟨e, he⟩
    cases hts : (ofText s).result with
    | error e' => exact ⟨e', rfl⟩
    | ok ts =>
      exfalso
      cases hends : endsLine s with
      | true => cases he.symm.trans (result_completed_of_endsLine hts hends)
      | false =>
        obtain ⟨us, finish, -, hus⟩ := result_completed_of_not_endsLine hts hends
        cases he.symm.trans hus
  · rintro ⟨e, he⟩
    exact ⟨e, by rw [ofText_completed_of_error he, he]⟩

/-- To complete a text does not change whether it scans to its end, and where it does not, nothing
is changed, nor what is handed to an observer. A text that ends with a newline is complete. The last
line of every other text that scans to its end is given a newline token behind its last character,
unless it is blank, and the end-of-file token moves to the next line. So the tokens of a completed
text are an end-of-file token alone, or one with a newline in front of it. -/
theorem ofText_completed (s : String) (hlength : s.length < UInt32.size - 2) :
    ((∃ e, (ofText (completed s)).result = .error e) ↔ ∃ e, (ofText s).result = .error e) ∧
    (∀ e, (ofText s).result = .error e →
      ofText (completed s) = ofText s ∧ handed (completed s) = handed s) ∧
    (∀ ts, (ofText s).result = .ok ts → endsLine s = true →
      (ofText (completed s)).result = .ok ts) ∧
    (∀ ts, (ofText s).result = .ok ts → endsLine s = false →
      ∃ us finish newline finish', ts = us ++ [.endOfFile finish] ∧
        (ofText (completed s)).result = .ok (us ++
          (if (lastLine s.toList).all isWhiteSpace then [] else [⟨.newline, "\n", newline⟩]) ++
          [.endOfFile finish']) ∧
        newline.line.toNat = 1 + s.toList.count '\n' ∧
        newline.column.toNat = 1 + (lastLine s.toList).length ∧
        finish'.line.toNat = 2 + s.toList.count '\n' ∧ finish'.column = 1) ∧
    ∀ ts, (ofText (completed s)).result = .ok ts →
      ∃ finish, ts = [.endOfFile finish] ∨
        ∃ us newline, newline.kind = .newline ∧ ts = us ++ [newline, .endOfFile finish] := by
  refine ⟨completed_fails_iff, fun e he => ?_, fun _ => result_completed_of_endsLine, ?_, ?_⟩
  · have hsame : ofText (completed s) = ofText s := ofText_completed_of_error he
    rw [handed_eq, handed_eq, hsame]
    exact ⟨rfl, rfl⟩
  · intro ts hts hends
    rw [← String.length_toList] at hlength
    obtain ⟨us, finish, rfl, hus⟩ := result_completed_of_not_endsLine hts hends
    obtain ⟨hline, hcolumn⟩ := @Position.toNat_after s.toList (by omega)
    have hshort : (s.toList ++ ['\n']).length < UInt32.size - 1 := by
      rw [List.length_append, List.length_singleton]
      omega
    have hfinish := Position.toNat_line_atEnd hshort
    rw [List.count_append, List.count_singleton_self] at hfinish
    exact ⟨us, finish, .after s.toList, .atEnd (s.toList ++ ['\n']), rfl, hus, hline, hcolumn,
      by omega, rfl⟩
  · intro ts hts
    obtain ⟨us, finish, hover, rfl⟩ := lineOver_of_completed hts
    refine ⟨finish, ?_⟩
    obtain rfl | ⟨front, t, rfl⟩ := List.eq_nil_or_concat us
    · exact .inl rfl
    · rw [List.concat_eq_append, Tokens.lineOver_concat] at hover
      exact .inr ⟨front, t, hover, by simp⟩

/-- The second line is given a newline token in the third column. -/
theorem ofText_completed_second_line :
    "a\n b".length < UInt32.size - 2 ∧
      (ofText "a\n b").result =
        .ok [⟨.name, "a", ⟨1, 1⟩⟩, ⟨.newline, "\n", ⟨1, 2⟩⟩, ⟨.name, "b", ⟨2, 2⟩⟩,
          .endOfFile ⟨2, 1⟩] ∧
      endsLine "a\n b" = false ∧
      ∃ us finish newline finish',
        [⟨.name, "a", ⟨1, 1⟩⟩, ⟨.newline, "\n", ⟨1, 2⟩⟩, ⟨.name, "b", ⟨2, 2⟩⟩, .endOfFile ⟨2, 1⟩] =
          us ++ [.endOfFile finish] ∧
        (ofText (completed "a\n b")).result =
          .ok (us ++ [⟨.newline, "\n", newline⟩] ++ [.endOfFile finish']) ∧
        newline.line.toNat = 2 ∧ newline.column.toNat = 3 ∧ finish'.line.toNat = 3 := by
  have hlength : "a\n b".length < UInt32.size - 2 := by decide
  have hresult : (ofText "a\n b").result =
      .ok [⟨.name, "a", ⟨1, 1⟩⟩, ⟨.newline, "\n", ⟨1, 2⟩⟩, ⟨.name, "b", ⟨2, 2⟩⟩,
        .endOfFile ⟨2, 1⟩] := by decide +kernel
  have hends : endsLine "a\n b" = false := by decide +kernel
  have hfilled : (lastLine "a\n b".toList).all isWhiteSpace = false := by
    decide +kernel
  obtain ⟨-, -, -, hopen, -⟩ := ofText_completed _ hlength
  obtain ⟨us, finish, newline, finish', htokens, hus, hline, hcolumn, hfinish, -⟩ :=
    hopen _ hresult hends
  rw [hfilled] at hus
  exact ⟨hlength, hresult, hends, us, finish, newline, finish', htokens, hus, hline, hcolumn,
    hfinish⟩

end Lexed

end FrontEnd

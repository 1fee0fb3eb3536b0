-- SUMMARY: Scanning stops at the first character that has no place where it stands, and at no other.
import FrontEnd.Proofs.Token.Observing
import FrontEnd.Proofs.Token.Tiling

/-!
# Offending characters

Whether a character has a place in a text can be told from what stands in front
of it, without scanning. White space and the symbols of the language stand
anywhere, and so do letters, digits and `_`. The digits and numbers of other
scripts need a word to stand in. They have one where the run of word characters
in front of them holds anything but digits, because that character has begun a
word, and they offend where the run is empty or a number.

A token begins only in front of a character that does not go on with a word
(`Fresh`). There the two views meet: the lexer finds no token exactly where the
next character offends.
-/

namespace FrontEnd

open Unicode Source

variable {before cs ds w : List Char} {c d : Char} {σ : Spelling} {xs : List Located}
variable {finish : Position}

-- ---------------------------------------------------------------------------
-- Characters in their surroundings
-- ---------------------------------------------------------------------------

namespace Source

/-- The run of word characters that a text leaves off in. -/
def lastWord (before : List Char) : List Char :=
  before.rtakeWhile isWordPart

/-- The characters that are tokens by themselves and no white space. -/
def signs : List Char :=
  ['=', '(', ')', '+', '-', '*']

/-- Whether the character `c` has no place behind the text `before`. -/
def offends (before : List Char) (c : Char) : Bool :=
  !isWhiteSpace c && !signs.contains c &&
    (!isWordPart c ||
      isAlphanumeric c && !isAlphabetic c && !c.isDigit && (lastWord before).all Char.isDigit)

/-- Whether the character at an index has no place in the text. -/
def offendsAt (text : List Char) (i : Nat) : Bool :=
  text[i]?.any (offends (text.take i))

theorem lastWord_concat (h : isWordPart c = false) : lastWord (before ++ [c]) = [] :=
  List.rtakeWhile_concat_neg _ _ _ (by simp [h])

theorem lastWord_append (h : ∀ d ∈ w, isWordPart d = true) :
    lastWord (before ++ w) = lastWord before ++ w := by
  induction w using List.reverseRecOn with
  | nil => simp
  | append_singleton w d ih =>
    obtain ⟨hw, hd⟩ := List.forall_mem_append.1 h
    have hlast : lastWord ((before ++ w) ++ [d]) = lastWord (before ++ w) ++ [d] :=
      List.rtakeWhile_concat_pos _ _ _ (hd d (List.mem_singleton_self d))
    rw [← List.append_assoc, hlast, ih hw, List.append_assoc]

theorem offends_of_isWhiteSpace (h : isWhiteSpace c = true) : offends before c = false := by
  simp [offends, h]

theorem offends_of_isDigit (h : c.isDigit = true) : offends before c = false := by
  simp [offends, h, isWordPart_of_isDigit h]

/-- A character goes on with a word when the run in front of it holds anything but digits. -/
theorem offends_of_mem (hd : isWordPart d = true) (hc : c ∈ lastWord before)
    (hdigit : c.isDigit = false) : offends before d = false := by
  have hall : (lastWord before).all Char.isDigit = false :=
    List.all_eq_false.2 ⟨c, hc, by simp [hdigit]⟩
  simp [offends, hd, hall]

/-- No character of `cs` offends behind `before`. -/
def Clean (before : List Char) : List Char → Prop
  | [] => True
  | c :: cs => offends before c = false ∧ Clean (before ++ [c]) cs

@[simp] theorem clean_nil (before : List Char) : Clean before [] := trivial

theorem clean_append : Clean before (cs ++ ds) ↔ Clean before cs ∧ Clean (before ++ cs) ds := by
  induction cs generalizing before with
  | nil => simp
  | cons c cs ih => simp [Clean, ih, and_assoc]

theorem clean_of_isDigit (h : ∀ d ∈ w, d.isDigit = true) : Clean before w := by
  induction w generalizing before with
  | nil => exact clean_nil _
  | cons d w ih =>
    obtain ⟨hd, hw⟩ := List.forall_mem_cons.1 h
    exact ⟨offends_of_isDigit hd, ih hw⟩

/-- All of a run that goes on with a word has its place there. -/
theorem clean_of_mem (h : ∀ d ∈ w, isWordPart d = true) (hc : c ∈ lastWord before)
    (hdigit : c.isDigit = false) : Clean before w := by
  induction w generalizing before with
  | nil => exact clean_nil _
  | cons d w ih =>
    obtain ⟨hd, hw⟩ := List.forall_mem_cons.1 h
    refine ⟨offends_of_mem hd hc hdigit, ih hw ?_⟩
    rw [lastWord_append (by simpa using hd)]
    exact List.mem_append_left _ hc

theorem Clean.getElem (h : Clean before cs) {i : Nat} (hi : i < cs.length) :
    offends (before ++ cs.take i) cs[i] = false := by
  induction cs generalizing before i with
  | nil => cases hi
  | cons c cs ih =>
    obtain ⟨hc, hcs⟩ := h
    cases i with
    | zero => simpa using hc
    | succ i => simpa using ih hcs (Nat.lt_of_succ_lt_succ hi)

theorem Clean.offendsAt (h : Clean [] cs) (ds : List Char) {i : Nat} (hi : i < cs.length) :
    offendsAt (cs ++ ds) i = false := by
  rw [Source.offendsAt, List.getElem?_append_left hi, List.getElem?_eq_getElem hi,
    List.take_append_of_le_length (Nat.le_of_lt hi)]
  exact h.getElem hi

end Source

-- ---------------------------------------------------------------------------
-- The first characters of tokens
-- ---------------------------------------------------------------------------

theorem isDigit_eq_false_of_isWordStart (h : isWordStart c = true) : c.isDigit = false := by
  have hdisjoint : CodeRanges.disjoint alphabeticRanges [(0x30, 0x39)] = true := by decide +kernel
  obtain h | rfl : isAlphabetic c = true ∨ c = '_' := by simpa [isWordStart] using h
  · have hrange := CodeRanges.contains_eq_false hdisjoint h
    simpa [CodeRanges.contains, Char.isDigit, UInt32.le_iff_toNat_le] using hrange
  · decide

/-- What a character that starts a token is: a digit, the start of a word, or none of a word. -/
theorem Spelling.offends_of_of? (h : Spelling.of? c = some σ) : offends before c = false := by
  obtain ⟨hdigit, -⟩ | ⟨hword, -⟩ | ⟨k, hk, -⟩ := of?_cases h
  · exact offends_of_isDigit hdigit
  · obtain hc | rfl : isAlphabetic c = true ∨ c = '_' := by simpa [isWordStart] using hword
    · simp [offends, hc, isWordPart_of_isWordStart hword]
    · have hnot : isAlphanumeric '_' = false := by decide +kernel
      simp [offends, isWordPart_of_isWordStart hword, hnot]
  · have : ∀ x ∈ Kind.symbols, isWhiteSpace x.1 = true ∨ signs.contains x.1 = true := by decide
    obtain hwhite | hsymbol := this _ (Kind.mem_symbols hk)
    · exact offends_of_isWhiteSpace hwhite
    · simp only [offends, hsymbol, Bool.not_true, Bool.and_false, Bool.false_and]

/-- In front of a character that starts no token a run of digits leaves nothing to go on with. -/
theorem Spelling.offends_of_none (hspacing : isSpacing c = false) (h : Spelling.of? c = none)
    (hfresh : isWordPart c = true → (lastWord before).all Char.isDigit = true) :
    offends before c = true := by
  unfold Spelling.of? at h
  split at h
  · cases h
  next hdigit =>
  split at h
  · cases h
  next hword =>
  have hsymbol : Kind.ofSymbol? c = none := by simpa using h
  have hne : ∀ d ∈ '\n' :: signs, c ≠ d := by
    have hall : ('\n' :: signs).all (fun d => (Kind.ofSymbol? d).isSome) = true := by decide
    intro d hd hc
    have hsome := List.all_eq_true.1 hall d hd
    rw [← hc, hsymbol] at hsome
    cases hsome
  have hwhite : isWhiteSpace c = false := by
    simpa [isSpacing, hne '\n' (List.mem_cons_self)] using hspacing
  have hsign : c ∉ signs := fun hmem => hne c (List.mem_cons_of_mem _ hmem) rfl
  have hstart : isAlphabetic c = false ∧ c ≠ '_' := by simpa [isWordStart] using hword
  cases hpart : isWordPart c with
  | false => simp [offends, hwhite, hsign, hpart]
  | true =>
    have halpha : isAlphanumeric c = true := by simpa [isWordPart, hstart.2] using hpart
    have hdigit : c.isDigit = false := by simpa using hdigit
    simp [offends, hwhite, hsign, halpha, hstart.1, hdigit, hfresh hpart]

-- ---------------------------------------------------------------------------
-- Where a token may begin
-- ---------------------------------------------------------------------------

/-- Between `before` and `cs` no word goes on: the run in front is empty or a number, or what comes
next is no part of a word. -/
def Fresh (before cs : List Char) : Prop :=
  (lastWord before).all Char.isDigit = true ∨ ∀ d ∈ cs.head?, isWordPart d = false

namespace Fresh

theorem all_isDigit (h : Fresh before (c :: cs)) (hc : isWordPart c = true) :
    (lastWord before).all Char.isDigit = true := by
  obtain h | h := h
  · exact h
  · simp [hc] at h

theorem concat (h : isWordPart c = false) (cs : List Char) : Fresh (before ++ [c]) cs := by
  left
  rw [lastWord_concat h]
  rfl

/-- The characters of a token have their place, and behind it the next token may begin. -/
theorem token (h : Fresh before (c :: (w ++ cs))) (hσ : Spelling.of? c = some σ)
    (hrun : ∀ d ∈ w, σ.continues d = true) (hstop : ∀ d ∈ cs.head?, σ.continues d = false) :
    Clean before (c :: w) ∧ Fresh (before ++ c :: w) cs := by
  have hc : offends before c = false := Spelling.offends_of_of? hσ
  obtain ⟨hdigit, rfl⟩ | ⟨hstart, rfl⟩ | ⟨k, hk, rfl⟩ := Spelling.of?_cases hσ
  · have hdigits : ∀ d ∈ c :: w, d.isDigit = true := List.forall_mem_cons.2 ⟨hdigit, hrun⟩
    refine ⟨⟨hc, clean_of_isDigit hrun⟩, .inl ?_⟩
    rw [lastWord_append fun d hd => isWordPart_of_isDigit (hdigits d hd), List.all_append,
      h.all_isDigit (isWordPart_of_isDigit hdigit), List.all_eq_true.2 hdigits]
    rfl
  · refine ⟨⟨hc, ?_⟩, .inr hstop⟩
    have hword : c ∈ lastWord (before ++ [c]) := by
      rw [lastWord_append (by simpa using isWordPart_of_isWordStart hstart)]
      simp
    exact clean_of_mem hrun hword (isDigit_eq_false_of_isWordStart hstart)
  · obtain rfl := Spelling.eq_nil_of_symbol hrun
    have hpart : isWordPart c = false := Kind.isWordPart_of_mem_symbols (Kind.mem_symbols hk)
    exact ⟨⟨hc, clean_nil _⟩, concat hpart cs⟩

end Fresh

-- ---------------------------------------------------------------------------
-- The scan
-- ---------------------------------------------------------------------------

namespace Lexed

/-- Where a token may begin, the scan comes to the end of the characters and none of them offends,
or it stops at the first one that does. Up to there it is the scan of the characters in front. -/
theorem scan_offends (finish : Position) (hxs : xs = located before cs)
    (hfresh : Fresh before cs) :
    (scan finish xs).error = none ∧ Clean before cs ∨
    ∃ ds c es ts, cs = ds ++ c :: es ∧ Clean before ds ∧ offends (before ++ ds) c = true ∧
      scan finish xs = { tokens := ts, error := some ⟨c, .after (before ++ ds)⟩ } ∧
      ∀ finish', scan finish' (located before ds) = { tokens := ts ++ [.endOfFile finish'] } := by
  subst hxs
  induction pieces before cs with
  | nil before =>
    exact .inl ⟨by rw [located_nil, scan_nil], clean_nil _⟩
  | @spacing before cs c hc hblank _ ih =>
    have hpart : isWordPart c = false :=
      Bool.eq_false_iff.2 fun h => by simp [isWhiteSpace_eq_false_of_isWordPart h] at hc
    have hclean : offends before c = false := offends_of_isWhiteSpace hc
    rw [scan_skip hc hblank]
    obtain ⟨hend, hcs⟩ | ⟨ds, d, es, ts, rfl, hds, hd, hscan, hfront⟩ := ih (.concat hpart cs)
    · exact .inl ⟨hend, hclean, hcs⟩
    · rw [List.append_assoc] at hd hscan
      refine .inr ⟨c :: ds, d, es, ts, rfl, ⟨hclean, hds⟩, hd, hscan, fun finish' => ?_⟩
      rw [scan_skip hc hblank]
      exact hfront finish'
  | @token before cs w c σ hσ hfilled hw hstop _ ih =>
    obtain ⟨hclean, hnext⟩ := hfresh.token hσ hw hstop
    rw [scan_piece hσ hfilled hw hstop]
    obtain ⟨hend, hcs⟩ | ⟨ds, d, es, ts, rfl, hds, hd, hscan, hfront⟩ := ih hnext
    · exact .inl ⟨hend, clean_append.2 ⟨hclean, hcs⟩⟩
    · rw [List.append_assoc] at hd hscan
      refine .inr ⟨c :: w ++ ds, d, es, σ.token (.after before) (c :: w) :: ts, by simp,
        clean_append.2 ⟨hclean, hds⟩, hd, by rw [hscan]; rfl, fun finish' => ?_⟩
      -- The token ends in the same place when the text is cut off behind it.
      have hstop' : ∀ d ∈ ds.head?, σ.continues d = false := by
        cases ds with
        | nil => simp
        | cons d ds => exact hstop
      rw [List.cons_append, scan_piece hσ hfilled hw hstop', hfront finish']
      rfl
  | invalid hc hσ =>
    have hoffends := Spelling.offends_of_none hc hσ hfresh.all_isDigit
    rw [scan_offending hc hσ]
    exact .inr ⟨[], _, _, [], rfl, clean_nil _, by simpa using hoffends, by simp, scan_nil⟩

/-- A text scans to its end and none of its characters offends, or scanning stops at the first one
that does, and the part in front of it scans to its end with the same tokens. -/
theorem ofText_cases (text : String) :
    (ofText text).error = none ∧ (∀ i, offendsAt text.toList i = false) ∨
    ∃ i c ts, offendsAt text.toList i = true ∧ (∀ j < i, offendsAt text.toList j = false) ∧
      text.toList[i]? = some c ∧
      ofText text = { tokens := ts, error := some ⟨c, .after (text.toList.take i)⟩ } ∧
      ofText (.ofList (text.toList.take i)) =
        { tokens := ts ++ [.endOfFile (.atEnd (text.toList.take i))] } := by
  have hfront : ∀ i, ofText (.ofList (text.toList.take i)) =
      scan (.atEnd (text.toList.take i)) (located [] (text.toList.take i)) := fun i => by
    rw [ofText_eq, String.toList_ofList]
  simp only [hfront, ofText_eq]
  generalize text.toList = cs
  have hfresh : Fresh [] cs := .inl rfl
  obtain ⟨hend, hclean⟩ | ⟨ds, c, es, ts, rfl, hclean, hoffends, hscan, hfront⟩ :=
    scan_offends (.atEnd cs) rfl hfresh
  · refine .inl ⟨hend, fun i => ?_⟩
    by_cases hi : i < cs.length
    · simpa using hclean.offendsAt [] hi
    · simp [offendsAt, List.getElem?_eq_none (Nat.le_of_not_lt hi)]
  · refine .inr ⟨ds.length, c, ts, ?_, fun j hj => hclean.offendsAt _ hj, by simp, ?_, ?_⟩
    · simpa [offendsAt] using hoffends
    · simpa using hscan
    · simpa using hfront _

/-- Scanning fails when some character offends, and then at the first one that does: the error is
that character at its line and column, and the tokens that an observer was handed are those of the
text in front of it, which scans to its end. When none offends, scanning comes to the end of the
text, and the observer was handed all the tokens. -/
theorem ofText_offending (text : String) (hlength : text.length < UInt32.size) :
    ((∃ e, (ofText text).result = .error e) ↔ ∃ i, offendsAt text.toList i = true) ∧
    (∀ i, offendsAt text.toList i = true → (∀ j < i, offendsAt text.toList j = false) →
      ∃ e ts finish, (ofText text).result = .error e ∧ handed text = ts ∧
        text.toList[i]? = some e.found ∧ e.token = ⟨.error, .singleton e.found, e.position⟩ ∧
        e.position.line.toNat = 1 + (text.toList.take i).count '\n' ∧
        e.position.column.toNat = 1 + (lastLine (text.toList.take i)).length ∧
        (ofText (.ofList (text.toList.take i))).result = .ok (ts ++ [.endOfFile finish])) ∧
    ((∀ i, offendsAt text.toList i = false) →
      (ofText text).result = .ok (handed text) ∧ (handed text).isTerminated = true) := by
  rw [handed_eq]
  obtain ⟨hend, hnone⟩ | ⟨i, c, ts, hi, hleast, hc, herror, hfront⟩ := ofText_cases text
  · have hresult : (ofText text).result = .ok (ofText text).tokens := by rw [result, hend]
    refine ⟨?_, fun i hi => ?_, fun _ => ⟨hresult, ?_⟩⟩
    · simp [hresult, hnone]
    · simp [hnone i] at hi
    · obtain ⟨ts, hts, htokens⟩ := exists_of_result_eq_ok hresult
      rw [htokens]
      exact Tokens.isTerminated_append hts _
  · have hresult : (ofText text).result = .error ⟨c, .after (text.toList.take i)⟩ := by
      rw [herror]
      rfl
    refine ⟨iff_of_true ⟨_, hresult⟩ ⟨i, hi⟩, fun j hj hbefore => ?_, fun hnone => ?_⟩
    · -- There is only one least index.
      obtain rfl : j = i := by
        rcases Nat.lt_trichotomy j i with hlt | heq | hlt
        · simp [hleast j hlt] at hj
        · exact heq
        · simp [hbefore i hlt] at hi
      obtain ⟨hlt, -⟩ := List.getElem?_eq_some_iff.1 hc
      have hshort : (text.toList.take j).length < UInt32.size - 1 := by
        rw [String.length_toList] at hlt
        rw [List.length_take]
        omega
      obtain ⟨hline, hcolumn⟩ := Position.toNat_after hshort
      exact ⟨_, ts, _, hresult, by rw [herror], hc, rfl, hline, hcolumn, by rw [hfront]; rfl⟩
    · simp [hnone i] at hi

/-- A superscript has its place in a name and offends behind a number. -/
theorem ofText_offending_superscript :
    "x²=3²".length < UInt32.size ∧ offendsAt "x²=3²".toList 4 = true ∧
      (∀ j < 4, offendsAt "x²=3²".toList j = false) ∧
      ∃ e ts, (ofText "x²=3²").result = .error e ∧ handed "x²=3²" = ts ∧
        e.found = '²' ∧ e.position.column.toNat = 5 ∧
        ∃ finish, (ofText (.ofList "x²=3".toList)).result = .ok (ts ++ [.endOfFile finish]) := by
  have hlength : "x²=3²".length < UInt32.size := by decide
  have hi : offendsAt "x²=3²".toList 4 = true := by decide +kernel
  have hleast : ∀ j < 4, offendsAt "x²=3²".toList j = false := by decide +kernel
  obtain ⟨e, ts, finish, herror, hts, hfound, -, -, hcolumn, hfront⟩ :=
    (ofText_offending "x²=3²" hlength).2.1 4 hi hleast
  exact ⟨hlength, hi, hleast, e, ts, herror, hts, (Option.some.inj hfound).symm, hcolumn, finish,
    hfront⟩

end Lexed

end FrontEnd

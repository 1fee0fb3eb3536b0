-- SUMMARY: The lines of a text are scanned one by one, each as if it stood alone but for its line number.
import FrontEnd.Proofs.Source.Relocation
import FrontEnd.Proofs.Token.Observing
import FrontEnd.Proofs.Token.Tiling

/-!
# Scanning by lines

Nothing goes on over the end of a line. A newline is a token by itself or a
space, the reader counts columns from it, and whether a line is blank is a
matter of that line. So a text with a newline in it scans to what the part up to
there gives, followed by what the part behind it gives, with the lines counted
on.
-/

namespace FrontEnd

open Unicode Source

variable {before v cs l : List Char} {xs : List Located} {finish : Position}

-- ---------------------------------------------------------------------------
-- Relocated characters
-- ---------------------------------------------------------------------------

namespace Lexer

theorem tokenOf_relocate (f : Position → Position) (σ : Spelling) (c : Located)
    (run : List Located) :
    tokenOf σ (c.relocate f) (run.map (Located.relocate f)) = (tokenOf σ c run).relocate f := by
  simp [tokenOf, Token.relocate, Function.comp_def]

end Lexer

namespace Lexed

theorem relocate_behind (f : Position → Position) (ts : Tokens) (x : Lexed) :
    (x.behind ts).relocate f = (x.relocate f).behind (ts.relocate f) := by
  simp [relocate, behind]

/-- Scanning does not look at positions. -/
theorem scan_relocate (f : Position → Position) (finish : Position) (xs : List Located) :
    scan (f finish) (xs.map (Located.relocate f)) = (scan finish xs).relocate f := by
  induction segmented xs with
  | nil =>
    rw [List.map_nil, scan_nil, scan_nil]
    rfl
  | @spacing c xs hc _ ih =>
    rw [List.map_cons, scan_spacing (c := c.relocate f) hc, scan_spacing hc, ih]
  | @token c run xs σ hσ hrun hstop _ ih =>
    have hrun' : ∀ d ∈ run.map (Located.relocate f), σ.continues d.char = true := by
      simpa using hrun
    have hstop' : ∀ d ∈ (xs.map (Located.relocate f)).head?, σ.continues d.char = false := by
      cases xs with
      | nil => simp
      | cons d ds => simpa using hstop
    rw [List.map_cons, List.map_append, scan_token (c := c.relocate f) hσ hrun' hstop',
      scan_token hσ hrun hstop, ih, relocate_behind, Lexer.tokenOf_relocate]
    rfl
  | @invalid c xs hc hσ =>
    rw [List.map_cons, scan_invalid (c := c.relocate f) hc hσ, scan_invalid hc hσ]
    rfl

end Lexed

-- ---------------------------------------------------------------------------
-- Behind a newline
-- ---------------------------------------------------------------------------

theorem Position.after_newline (before v : List Char) :
    Position.after (before ++ '\n' :: v) = (Position.after v).down (before.count '\n' + 1) := by
  simp only [after, down, lastLine_append_newline_append, List.count_append, List.count_cons_self]
  rw [show 1 + (before.count '\n' + (v.count '\n' + 1)) = 1 + v.count '\n' + (before.count '\n' + 1)
    by omega, UInt32.ofNat_add]

theorem Position.atEnd_newline (before v : List Char) :
    Position.atEnd (before ++ '\n' :: v) = (Position.atEnd v).down (before.count '\n' + 1) := by
  simp only [atEnd, down, List.count_append, List.count_cons_self]
  rw [show 1 + (before.count '\n' + (v.count '\n' + 1)) = 1 + v.count '\n' + (before.count '\n' + 1)
    by omega, UInt32.ofNat_add]

/-- Behind a newline a text is handed out as if it began there, on a later line. -/
theorem located_newline (before v cs : List Char) :
    located (before ++ '\n' :: v) cs =
      (located v cs).map (Located.relocate (Position.down (before.count '\n' + 1))) := by
  induction cs generalizing v with
  | nil => rfl
  | cons c cs ih =>
    rw [located_cons, located_cons, List.map_cons, List.append_assoc, List.cons_append, ih,
      Located.after, lastLine_append_newline_append, Position.after_newline]
    rfl

/-- No word goes on over a newline. -/
theorem apart_newline (before ys : List Char) :
    Lexed.Apart (located [] (before ++ ['\n'])) (located (before ++ ['\n']) ys) := by
  refine Severed.apart fun c hc _ _ => .inl ?_
  obtain rfl : '\n' = c := by simpa using hc
  decide

/-- A text is scanned up to a newline, and then on from there. -/
theorem Lexed.ofText_newline {text first rest : String} {s : List Char}
    (hfirst : first.toList = s ++ ['\n']) (htext : text.toList = s ++ '\n' :: rest.toList) :
    ofText text =
      (ofText first).andThen ((ofText rest).relocate (Position.down (s.count '\n' + 1))) := by
  rw [ofText_eq, ofText_eq, ofText_eq, hfirst, htext, Position.atEnd_newline,
    show s ++ '\n' :: rest.toList = (s ++ ['\n']) ++ rest.toList by simp, located_append,
    List.nil_append, scan_append _ (apart_newline _ _), located_newline, scan_relocate]

-- ---------------------------------------------------------------------------
-- One line
-- ---------------------------------------------------------------------------

theorem mem_located {x : Located} (h : x ∈ located before cs) :
    ∃ ds c es, cs = ds ++ c :: es ∧ x = .after (before ++ ds) c := by
  obtain ⟨ys, zs, hsplit⟩ := List.append_of_mem h
  obtain ⟨ds, es, rfl, -, hzs⟩ := located_eq_append hsplit
  obtain ⟨c, es, rfl, rfl, -⟩ := located_eq_cons hzs.symm
  exact ⟨ds, c, es, rfl, rfl⟩

/-- A text without a newline is handed out on the first line. -/
theorem located_of_not_mem {x : Located} (hl : '\n' ∉ l) (h : x ∈ located [] l) :
    x.char ≠ '\n' ∧ x.position.line = 1 := by
  obtain ⟨ds, c, es, rfl, rfl⟩ := mem_located h
  obtain ⟨hds, hc, -⟩ : '\n' ∉ ds ∧ '\n' ≠ c ∧ '\n' ∉ es := by simpa using hl
  constructor
  · simp [Located.after, hc.symm]
  · simp [Position.after, List.count_eq_zero_of_not_mem hds]

namespace Lexed

/-- A token other than the end-of-file token stands at the character that it starts with. -/
theorem mem_tokens_scan {t : Token} (h : t ∈ (scan finish xs).tokens)
    (hend : t.kind ≠ .endOfFile) :
    ∃ c ∈ xs, t.position = c.position ∧ (t.kind = .newline → c.char = '\n') := by
  induction segmented xs with
  | nil =>
    obtain rfl : t = .endOfFile finish := by simpa using h
    exact absurd rfl hend
  | spacing hc _ ih =>
    rw [scan_spacing hc] at h
    obtain ⟨d, hd, ht⟩ := ih h
    exact ⟨d, .tail _ hd, ht⟩
  | @token c run xs σ hσ hrun hstop _ ih =>
    rw [scan_token hσ hrun hstop, tokens_behind, List.singleton_append] at h
    obtain rfl | h := List.mem_cons.1 h
    · refine ⟨c, .head _, rfl, fun hkind => ?_⟩
      exact (Spelling.isWhiteSpace_of_of? hσ "").2
        ((Lexer.kind_tokenOf_eq_newline_iff run hσ).1 hkind)
    · obtain ⟨d, hd, ht⟩ := ih h
      exact ⟨d, .tail _ (List.mem_append_right _ hd), ht⟩
  | invalid hc hσ => simp [scan_invalid hc hσ] at h

theorem mem_error_scan {e : InvalidCharacter} (h : (scan finish xs).error = some e) :
    ∃ c ∈ xs, e.position = c.position := by
  induction segmented xs with
  | nil => simp at h
  | spacing hc _ ih =>
    rw [scan_spacing hc] at h
    obtain ⟨d, hd, he⟩ := ih h
    exact ⟨d, .tail _ hd, he⟩
  | token hσ hrun hstop _ ih =>
    rw [scan_token hσ hrun hstop] at h
    obtain ⟨d, hd, he⟩ := ih h
    exact ⟨d, .tail _ (List.mem_append_right _ hd), he⟩
  | invalid hc hσ =>
    rw [scan_invalid hc hσ] at h
    obtain rfl := Option.some.inj h
    exact ⟨_, .head _, rfl⟩

/-- What a single line with its newline scans to: nothing but the end where the line is blank, the
tokens of the line and a newline, or some of its tokens and an error. -/
inductive OfLine : Lexed → Prop where
  | blank (finish : Position) : OfLine { tokens := [.endOfFile finish] }
  | tokens {ts : Tokens} {newline : Token} (finish : Position) (hne : ts ≠ [])
      (hline : ∀ t ∈ ts ++ [newline], t.position.line = 1)
      (hkinds : ∀ t ∈ ts, t.kind ≠ .newline ∧ t.kind ≠ .endOfFile)
      (hnewline : newline.kind = .newline) :
      OfLine (behind (ts ++ [newline]) { tokens := [.endOfFile finish] })
  | invalid {ts : Tokens} {e : InvalidCharacter} (hline : e.position.line = 1) :
      OfLine { tokens := ts, error := some e }

/-- All of a blank line is handed out as spacing, the newline included. -/
theorem scan_blank_line (finish : Position) (hl : '\n' ∉ l) (hblank : l.all isWhiteSpace = true) :
    scan finish (located [] l ++ [.after l '\n']) = { tokens := [.endOfFile finish] } := by
  have hspacing : ∀ x ∈ located [] l ++ [Located.after l '\n'], isSpacing x.char = true := by
    intro x hx
    obtain hx | hx := List.mem_append.1 hx
    · obtain ⟨ds, c, es, rfl, rfl⟩ := mem_located hx
      have hwhite := List.all_eq_true.1 hblank c (by simp)
      have hc : c ≠ '\n' := fun h => by simp [h] at hl
      simpa [Located.after, hc, isSpacing] using hwhite
    · obtain rfl : x = _ := List.mem_singleton.1 hx
      have hchar : (Located.after l '\n').char = ' ' := by
        simp [Located.after, lastLine_eq_self hl, hblank]
      rw [hchar]
      decide
  have hscan := scan_of_forall_isSpacing finish [] hspacing
  rwa [List.append_nil, scan_nil] at hscan

/-- Behind other lines a newline is scanned by itself. -/
theorem scan_line (finish : Position) (hl : '\n' ∉ l) (hblank : l.all isWhiteSpace = false) :
    scan finish (located [] l ++ [.after l '\n']) = (scan finish (located [] l)).andThen
      { tokens := [Lexer.tokenOf (.symbol .newline) (.after l '\n') [], .endOfFile finish] } := by
  have hchar : (Located.after l '\n').char = '\n' := by
    simp [Located.after, lastLine_eq_self hl, hblank]
  have hσ : Spelling.of? (Located.after l '\n').char = some (.symbol .newline) := by
    rw [hchar]
    exact Spelling.of?_newline
  have hnewline : scan finish (.after l '\n' :: ([] ++ [])) = _ :=
    scan_token hσ (by simp) (by simp)
  rw [List.append_nil, scan_nil] at hnewline
  have hapart : Apart (located [] l) [Located.after l '\n'] := by
    intro c _ d hd
    obtain rfl : Located.after l '\n' = d := by simpa using hd
    right
    rw [hchar]
    decide +kernel
  rw [scan_append finish hapart, hnewline]
  rfl

theorem ofLine {text : String} (hl : '\n' ∉ l) (htext : text.toList = l ++ ['\n']) :
    OfLine (ofText text) := by
  rw [ofText_eq, htext, located_append]
  generalize Position.atEnd _ = finish
  have hlast : located ([] ++ l) ['\n'] = [.after l '\n'] := rfl
  rw [hlast]
  cases hblank : l.all isWhiteSpace with
  | true =>
    rw [scan_blank_line finish hl hblank]
    exact .blank finish
  | false =>
    rw [scan_line finish hl hblank]
    obtain ⟨ts, hts, hscan | ⟨e, hscan⟩⟩ := scan_cases finish (located [] l)
    · have hmem : ∀ t ∈ ts, t.kind ≠ .newline ∧ t.position.line = 1 := by
        intro t ht
        have ht' : t ∈ (scan finish (located [] l)).tokens := by
          rw [hscan]
          exact List.mem_append_left _ ht
        obtain ⟨c, hc, hposition, hkind⟩ := mem_tokens_scan ht' (hts t ht)
        obtain ⟨hne, hline⟩ := located_of_not_mem hl hc
        exact ⟨fun h => hne (hkind h), hposition ▸ hline⟩
      have hline : (Position.after l).line = 1 := by
        simp [Position.after, List.count_eq_zero_of_not_mem hl]
      have hne : ts ≠ [] := by
        rintro rfl
        -- Without tokens there would be nothing but white space.
        have hspelled : (scan finish (located [] l)).tokens.spelled = _ :=
          spelled_scan rfl (congrArg error hscan)
        rw [hscan] at hspelled
        have hall := List.filter_eq_nil_iff.1 hspelled.symm
        simp only [Bool.not_eq_true', Bool.not_eq_false] at hall
        rw [List.all_eq_true.2 hall] at hblank
        cases hblank
      have hofLine := @OfLine.tokens ts
        (Lexer.tokenOf (.symbol .newline) (.after l '\n') []) finish hne
        (List.forall_mem_append.2 ⟨fun t ht => (hmem t ht).2, List.forall_mem_singleton.2 hline⟩)
        (fun t ht => ⟨(hmem t ht).1, hts t ht⟩) rfl
      rw [hscan]
      simpa [andThen, behind] using hofLine
    · obtain ⟨c, hc, hposition⟩ := mem_error_scan (congrArg error hscan)
      rw [hscan]
      exact .invalid (hposition ▸ (located_of_not_mem hl hc).2)

end Lexed

-- ---------------------------------------------------------------------------
-- Line numbers
-- ---------------------------------------------------------------------------

/-- Lines counted on are numbers where they are words. -/
theorem Position.toNat_line_down {n : Nat} {p : Position} (h : p.line.toNat + n < UInt32.size) :
    (p.down n).line.toNat = p.line.toNat + n := by
  have hn : (UInt32.ofNat n).toNat = n := UInt32.toNat_ofNat_of_lt' (by omega)
  rw [down, UInt32.toNat_add, hn]
  exact Nat.mod_eq_of_lt h

theorem line_le_of_mem_located {x : Located} (hlength : cs.length < UInt32.size - 1)
    (h : x ∈ located [] cs) : x.position.line.toNat ≤ 1 + cs.count '\n' := by
  obtain ⟨ds, c, es, rfl, rfl⟩ := mem_located h
  have hds : ds.length < UInt32.size - 1 := by
    rw [List.length_append] at hlength
    omega
  have hcount : (ds ++ c :: es).count '\n' = ds.count '\n' + (c :: es).count '\n' :=
    List.count_append
  rw [List.nil_append, Located.position_after, (Position.toNat_after hds).1]
  omega

namespace Lexed

/-- What a text scans to stands on its lines. -/
theorem line_le_ofText {text : String} (hlength : text.length < UInt32.size - 1) :
    (∀ t ∈ (ofText text).tokens, t.position.line.toNat ≤ 1 + text.toList.count '\n') ∧
      ∀ e ∈ (ofText text).error, e.position.line.toNat ≤ 1 + text.toList.count '\n' := by
  rw [← String.length_toList] at hlength
  rw [ofText_eq]
  constructor
  · intro t ht
    by_cases hend : t.kind = .endOfFile
    · obtain ⟨ts, hts, hscan | ⟨e, hscan⟩⟩ :=
        scan_cases (.atEnd text.toList) (located [] text.toList)
      · rw [hscan] at ht
        obtain ht | ht := List.mem_append.1 ht
        · exact absurd hend (hts t ht)
        · obtain rfl := List.mem_singleton.1 ht
          exact Nat.le_of_eq (Position.toNat_line_atEnd hlength)
      · rw [hscan] at ht
        exact absurd hend (hts t ht)
    · obtain ⟨c, hc, hposition, -⟩ := mem_tokens_scan ht hend
      rw [hposition]
      exact line_le_of_mem_located hlength hc
  · intro e he
    obtain ⟨c, hc, hposition⟩ := mem_error_scan he
    rw [hposition]
    exact line_le_of_mem_located hlength hc

/-- Scanning goes line by line. A text up to a newline fails by itself, with the same tokens handed
to an observer, or its tokens up to the end-of-file token are followed by those that are handed out
for the text behind the newline, as many lines further down as there are in front of it, and it ends
as that text does. -/
theorem ofText_append_newline (s t : String)
    (hlength : (s ++ "\n" ++ t).length < UInt32.size - 1) :
    (∀ e, (ofText (s ++ "\n")).result = .error e →
      ofText (s ++ "\n" ++ t) = ofText (s ++ "\n") ∧
        handed (s ++ "\n" ++ t) = handed (s ++ "\n")) ∧
    ∀ ts, (ofText (s ++ "\n")).result = .ok ts →
      ∃ us finish n, ts = us ++ [.endOfFile finish] ∧ n = s.toList.count '\n' + 1 ∧
        handed (s ++ "\n" ++ t) = us ++ (handed t).relocate (.down n) ∧
        (ofText (s ++ "\n" ++ t)).error = (ofText t).error.map (.relocate (.down n)) ∧
        (∀ u ∈ handed t, (u.position.down n).line.toNat = u.position.line.toNat + n) ∧
        ∀ e ∈ (ofText t).error, (e.position.down n).line.toNat = e.position.line.toNat + n := by
  have hnewline : ofText (s ++ "\n" ++ t) = (ofText (s ++ "\n")).andThen
      ((ofText t).relocate (.down (s.toList.count '\n' + 1))) :=
    ofText_newline (by simp) (by simp)
  simp only [handed_eq, hnewline]
  constructor
  · intro e he
    have hsame : (ofText (s ++ "\n")).andThen
        ((ofText t).relocate (.down (s.toList.count '\n' + 1))) = ofText (s ++ "\n") := by
      rw [andThen, result_eq_error he]
    exact ⟨hsame, congrArg tokens hsame⟩
  · intro ts hts
    obtain ⟨herror, htokens⟩ := result_eq_ok hts
    obtain ⟨us, -, rfl⟩ := exists_of_result_eq_ok hts
    have ht : t.length < UInt32.size - 1 := by
      simp only [String.length_append] at hlength
      omega
    obtain ⟨hlines, hlinesError⟩ := line_le_ofText ht
    have hcount : 1 + t.toList.count '\n' + (s.toList.count '\n' + 1) < UInt32.size := by
      have hs : s.toList.count '\n' ≤ s.toList.length := List.count_le_length
      have ht : t.toList.count '\n' ≤ t.toList.length := List.count_le_length
      have hone : "\n".length = 1 := rfl
      simp only [String.length_append, String.length_toList, hone] at hlength hs ht
      omega
    rw [andThen, herror, htokens]
    refine ⟨us, _, _, rfl, rfl, by simp [behind, relocate], rfl, fun u hu => ?_, fun e he => ?_⟩
    · apply Position.toNat_line_down
      have := hlines u hu
      omega
    · apply Position.toNat_line_down
      have := hlinesError e he
      omega

/-- Behind two lines, the second of them blank, an error is reported on the third. -/
theorem ofText_append_newline_error :
    ("x\n " ++ "\n" ++ "y ²").length < UInt32.size - 1 ∧
      (ofText ("x\n " ++ "\n")).result =
        .ok [⟨.name, "x", ⟨1, 1⟩⟩, ⟨.newline, "\n", ⟨1, 2⟩⟩, .endOfFile ⟨3, 1⟩] ∧
      (ofText ("x\n " ++ "\n" ++ "y ²")).error = some ⟨'²', ⟨3, 3⟩⟩ := by
  have hlength : ("x\n " ++ "\n" ++ "y ²").length < UInt32.size - 1 := by decide
  have hfirst : (ofText ("x\n " ++ "\n")).result =
      .ok [⟨.name, "x", ⟨1, 1⟩⟩, ⟨.newline, "\n", ⟨1, 2⟩⟩, .endOfFile ⟨3, 1⟩] := by decide +kernel
  have hsecond : (ofText "y ²").error = some ⟨'²', ⟨1, 3⟩⟩ := by decide +kernel
  obtain ⟨-, -, n, -, rfl, -, herror, -⟩ := (ofText_append_newline _ _ hlength).2 _ hfirst
  rw [hsecond] at herror
  exact ⟨hlength, hfirst, herror.trans (by decide)⟩

end Lexed

end FrontEnd

-- SUMMARY: The tokens of a text tile it: each stands where its position says, and only white space lies between them.
import FrontEnd.Proofs.Token.Pieces

/-!
# Tiling

Scanning loses nothing but white space. Each lexeme is a piece of the text, the
pieces follow each other without overlap, and a character that belongs to none
of them is white space. The position of a token is that of the first character
of its piece. Where a scan stops early this is true of the characters in front
of the one that it stops at (`Lexed.placed_scan`).
-/

namespace FrontEnd

open Unicode Source

-- ---------------------------------------------------------------------------
-- What tokens are spelled by
-- ---------------------------------------------------------------------------

/-- The characters of the tokens that are no newlines. -/
def Tokens.spelled (ts : Tokens) : List Char :=
  (ts.filter (·.kind ≠ .newline)).flatMap (·.lexeme.toList)

@[simp] theorem Tokens.spelled_append (ts us : Tokens) :
    spelled (ts ++ us) = spelled ts ++ spelled us := by
  simp [spelled]

/-- A token is spelled by the characters of its lexeme that are not white space, which are none for
a newline and all of them for every other token. -/
theorem Spelling.spelled_token {σ : Spelling} {c : Char} {w : List Char} (p : Position)
    (hσ : of? c = some σ) (hw : ∀ d ∈ w, σ.continues d = true) :
    Tokens.spelled [σ.token p (c :: w)] = (c :: w).filter (!isWhiteSpace ·) := by
  by_cases hc : c = '\n'
  · subst hc
    obtain rfl := Option.some.inj (of?_newline.symm.trans hσ)
    obtain rfl := eq_nil_of_symbol hw
    rfl
  · have hkind := mt (kind_eq_newline_iff hσ (.ofList (c :: w))).1 hc
    have hwhite : ∀ d ∈ c :: w, isWhiteSpace d = false := by
      refine List.forall_mem_cons.2 ⟨?_, fun d hd => isWhiteSpace_of_continues hσ (hw d hd)⟩
      exact Bool.eq_false_iff.2 fun h => hc ((isWhiteSpace_of_of? hσ "").2 h)
    have hfilter : (c :: w).filter (!isWhiteSpace ·) = c :: w :=
      List.filter_eq_self.2 fun d hd => by rw [hwhite d hd, Bool.not_false]
    rw [Tokens.spelled, List.filter_cons_of_pos (by simpa using hkind), hfilter]
    simp

-- ---------------------------------------------------------------------------
-- Tilings
-- ---------------------------------------------------------------------------

/-- A token and the index of its first character in a text. -/
structure Placed where
  token : Token
  start : Nat

/-- The index behind the last character. -/
def Placed.stop (p : Placed) : Nat :=
  p.start + p.token.lexeme.length

/-- The character behind a token. -/
theorem Placed.getElem?_stop (t : Token) (before cs : List Char) :
    (before ++ (t.lexeme.toList ++ cs))[(Placed.mk t before.length).stop]? = cs.head? := by
  rw [stop, ← String.length_toList, ← List.append_assoc, ← List.length_append,
    List.getElem?_append_right (Nat.le_refl _), Nat.sub_self, List.head?_eq_getElem?]

/-- The tokens tile the text from the index `first` on. -/
structure Tiling (text : List Char) (first : Nat) (ps : List Placed) : Prop where
  first_le : ∀ p ∈ ps, first ≤ p.start
  /-- No token is empty. -/
  nonempty : ∀ p ∈ ps, p.token.lexeme ≠ ""
  /-- The characters of a token are those of the text. -/
  slice : ∀ p ∈ ps, (text.drop p.start).take p.token.lexeme.length = p.token.lexeme.toList
  /-- A token is over where a later one starts. -/
  apart : ps.Pairwise fun p q => p.stop ≤ q.start
  /-- Between the tokens is white space. -/
  gaps : ∀ i, ∀ h : i < text.length, first ≤ i → (∀ p ∈ ps, i < p.start ∨ p.stop ≤ i) →
    isWhiteSpace text[i] = true
  /-- A token is at the position of its first character. -/
  position : ∀ p ∈ ps, p.token.position = .after (text.take p.start)

namespace Tiling

variable {before cs w : List Char} {c : Char} {ps : List Placed} {t : Token}

theorem nil (text : List Char) : Tiling text text.length [] where
  first_le := by simp
  nonempty := by simp
  slice := by simp
  apart := .nil
  gaps i h hi := absurd h (Nat.not_lt.2 hi)
  position := by simp

/-- A tiling may begin with white space. -/
theorem gap (hc : isWhiteSpace c = true)
    (h : Tiling (before ++ [c] ++ cs) (before ++ [c]).length ps) :
    Tiling (before ++ c :: cs) before.length ps := by
  rw [List.append_assoc, List.singleton_append, List.length_append] at h
  refine ⟨fun p hp => ?_, h.nonempty, h.slice, h.apart, fun i hi hfirst hps => ?_, h.position⟩
  · have := h.first_le p hp
    omega
  · obtain rfl | hlt := Nat.eq_or_lt_of_le hfirst
    · simpa using hc
    · exact h.gaps i hi hlt hps

/-- A tiling may begin with a token. -/
theorem token (hlexeme : t.lexeme = String.ofList (c :: w)) (hposition : t.position = .after before)
    (h : Tiling (before ++ c :: w ++ cs) (before ++ c :: w).length ps) :
    Tiling (before ++ c :: (w ++ cs)) before.length (⟨t, before.length⟩ :: ps) := by
  have hlength : t.lexeme.length = (c :: w).length := by rw [hlexeme, String.length_ofList]
  rw [List.append_assoc, List.cons_append, List.length_append] at h
  constructor
  case first_le =>
    refine List.forall_mem_cons.2 ⟨Nat.le_refl _, fun p hp => ?_⟩
    have := h.first_le p hp
    omega
  case nonempty =>
    refine List.forall_mem_cons.2 ⟨fun hempty => ?_, h.nonempty⟩
    have hzero : t.lexeme.length = 0 := congrArg String.length hempty
    rw [hlength, List.length_cons] at hzero
    omega
  case slice =>
    refine List.forall_mem_cons.2 ⟨?_, h.slice⟩
    rw [hlength, hlexeme, String.toList_ofList, List.drop_left, ← List.cons_append,
      List.take_left]
  case apart =>
    refine List.pairwise_cons.2 ⟨fun p hp => ?_, h.apart⟩
    have := h.first_le p hp
    rwa [Placed.stop, hlength]
  case gaps =>
    intro i hi hfirst hps
    obtain ⟨hhead, htail⟩ := List.forall_mem_cons.1 hps
    have hstop : i < before.length ∨ before.length + (c :: w).length ≤ i := hlength ▸ hhead
    exact h.gaps i hi (by omega) htail
  case position =>
    refine List.forall_mem_cons.2 ⟨?_, h.position⟩
    rw [hposition, List.take_left]

/-- The tokens start one behind the other. -/
theorem start_lt_start {text : List Char} {first : Nat} (h : Tiling text first ps) :
    ps.Pairwise fun p q => p.start < q.start := by
  refine h.apart.imp_of_mem fun {p q} hp _ hpq => ?_
  have hne : p.token.lexeme.length ≠ 0 := fun hzero =>
    h.nonempty p hp (String.length_eq_zero_iff.1 hzero)
  rw [Placed.stop] at hpq
  omega

end Tiling

-- ---------------------------------------------------------------------------
-- The tokens of a text
-- ---------------------------------------------------------------------------

namespace Lexed

theorem ofText_eq (text : String) :
    ofText text = scan (.atEnd text.toList) (located [] text.toList) := by
  obtain ⟨hchars, hfinish⟩ := Reader.drain_ofText text
  rw [scan, ← hchars, ← hfinish]
  rfl

variable {finish : Position} {xs : List Located} {before cs : List Char}

theorem result_eq_ok {x : Lexed} {ts : Tokens} (h : x.result = .ok ts) :
    x.error = none ∧ x.tokens = ts := by
  unfold result at h
  split at h
  · next herror => exact ⟨herror, Except.ok.inj h⟩
  · cases h

theorem result_eq_error {x : Lexed} {e : InvalidCharacter} (h : x.result = .error e) :
    x.error = some e := by
  unfold result at h
  split at h
  · cases h
  · next herror => rw [herror, Except.error.inj h]

/-- The tokens of a text that scans to its end are followed by an end-of-file token there. -/
theorem exists_of_result_eq_ok {text : String} {ts : Tokens} (h : (ofText text).result = .ok ts) :
    ∃ us, (∀ t ∈ us, t.kind ≠ .endOfFile) ∧ ts = us ++ [.endOfFile (.atEnd text.toList)] := by
  obtain ⟨herror, rfl⟩ := result_eq_ok h
  rw [ofText_eq] at herror ⊢
  obtain ⟨us, hus, hscan | ⟨e, hscan⟩⟩ := scan_cases (.atEnd text.toList) (located [] text.toList)
  · exact ⟨us, hus, by rw [hscan]⟩
  · simp [hscan] at herror

/-- What a scan is, by the places of its tokens: they tile the characters up to the first one that
starts no token, or all of them, and none goes on with the character behind it. -/
theorem placed_scan (finish : Position) (before cs : List Char) :
    ∃ ps ds es, cs = ds ++ es ∧ Tiling (before ++ ds) before.length ps ∧
      (∀ p ∈ ps, p.token.Spelled (before ++ cs)[p.stop]?) ∧
      (es = [] ∧
          scan finish (located before cs) =
            { tokens := ps.map (·.token) ++ [.endOfFile finish] } ∨
        ∃ c fs, es = c :: fs ∧ scan finish (located before cs) =
          { tokens := ps.map (·.token), error := some ⟨c, .after (before ++ ds)⟩ }) := by
  induction pieces before cs with
  | nil before =>
    exact ⟨[], [], [], rfl, by simpa using Tiling.nil before, by simp, .inl ⟨rfl, scan_nil _⟩⟩
  | spacing hc hblank _ ih =>
    obtain ⟨ps, ds, es, rfl, htiling, hps, hscan⟩ := ih
    rw [List.append_assoc, List.singleton_append] at hps hscan
    rw [scan_skip hc hblank]
    exact ⟨ps, _ :: ds, es, rfl, htiling.gap hc, hps, hscan⟩
  | @token before cs w c σ hσ hfilled hw hstop _ ih =>
    obtain ⟨ps, ds, es, rfl, htiling, hps, hscan⟩ := ih
    rw [List.append_assoc, List.cons_append] at hps hscan
    have hnext := Placed.getElem?_stop (σ.token (.after before) (c :: w)) before (ds ++ es)
    rw [Spelling.lexeme_token, String.toList_ofList] at hnext
    rw [scan_piece hσ hfilled hw hstop]
    refine ⟨⟨σ.token (.after before) (c :: w), before.length⟩ :: ps, c :: (w ++ ds), es, by simp,
      .token rfl rfl htiling, List.forall_mem_cons.2 ⟨?_, hps⟩, ?_⟩
    · exact ⟨σ, _, c, w, hσ, hw, hnext ▸ hstop, rfl⟩
    · obtain ⟨hes, hscan⟩ | ⟨d, fs, hes, hscan⟩ := hscan
      · exact .inl ⟨hes, by rw [hscan]; rfl⟩
      · exact .inr ⟨d, fs, hes, by rw [hscan]; rfl⟩
  | @invalid before cs c hc hσ =>
    refine ⟨[], [], c :: cs, rfl, by simpa using Tiling.nil before, by simp, .inr ⟨c, cs, rfl, ?_⟩⟩
    rw [scan_offending hc hσ, List.append_nil]
    rfl

/-- A scan to the end gives a tiling of what was scanned. -/
theorem tiling_scan (hxs : xs = located before cs) (h : (scan finish xs).error = none) :
    ∃ ps, (scan finish xs).tokens = ps.map (·.token) ++ [.endOfFile finish] ∧
      Tiling (before ++ cs) before.length ps := by
  subst hxs
  obtain ⟨ps, ds, es, rfl, htiling, -, ⟨rfl, hscan⟩ | ⟨c, fs, rfl, hscan⟩⟩ :=
    placed_scan finish before cs
  · exact ⟨ps, by rw [hscan], by rwa [List.append_nil]⟩
  · rw [hscan] at h
    cases h

/-- The lexemes are what is left of the text without its white space. -/
theorem spelled_scan (hxs : xs = located before cs) (h : (scan finish xs).error = none) :
    (scan finish xs).tokens.spelled = cs.filter (!isWhiteSpace ·) := by
  subst hxs
  induction pieces before cs with
  | nil before =>
    rw [located_nil, scan_nil]
    rfl
  | spacing hc hblank _ ih =>
    rw [scan_skip hc hblank] at h ⊢
    rw [ih h, List.filter_cons_of_neg (by simp [hc])]
  | token hσ hfilled hw hstop _ ih =>
    rw [scan_piece hσ hfilled hw hstop] at h ⊢
    rw [tokens_behind, Tokens.spelled_append, ih h, Spelling.spelled_token _ hσ hw,
      ← List.filter_append, List.cons_append]
  | invalid hc hσ =>
    rw [scan_offending hc hσ] at h
    cases h

/-- A text that scans to its end is tiled by its tokens. They stand at the lines and columns of
their first characters, the end-of-file token behind them stands in the first column of the last
line, and the lexemes are the text without its white space. -/
theorem ofText_tiling (text : String) (ts : Tokens) (hlength : text.length < UInt32.size - 1)
    (h : (ofText text).result = .ok ts) :
    ∃ ps finish, ts = ps.map (·.token) ++ [.endOfFile finish] ∧
      Tiling text.toList 0 ps ∧ (ps.Pairwise fun p q => p.start < q.start) ∧
      (∀ p ∈ ps, p.token.position.line.toNat = 1 + (text.toList.take p.start).count '\n' ∧
        p.token.position.column.toNat = 1 + (lastLine (text.toList.take p.start)).length) ∧
      finish.line.toNat = 1 + text.toList.count '\n' ∧ finish.column = 1 ∧
      ts.spelled = text.toList.filter (!isWhiteSpace ·) := by
  rw [← String.length_toList] at hlength
  obtain ⟨herror, rfl⟩ := result_eq_ok h
  rw [ofText_eq] at herror ⊢
  obtain ⟨ps, htokens, htiling⟩ := tiling_scan rfl herror
  refine ⟨ps, .atEnd text.toList, htokens, htiling, htiling.start_lt_start, fun p hp => ?_,
    Position.toNat_line_atEnd hlength, rfl, spelled_scan rfl herror⟩
  rw [htiling.position p hp]
  refine Position.toNat_after (Nat.lt_of_le_of_lt ?_ hlength)
  exact List.length_take_le' _ _

/-- A name on the second line, behind a line with nothing but a space in it. -/
theorem ofText_tiling_second_line :
    " \nx\n".length < UInt32.size - 1 ∧
      ∃ ps finish, [⟨.name, "x", ⟨2, 1⟩⟩, ⟨.newline, "\n", ⟨2, 2⟩⟩, .endOfFile ⟨3, 1⟩] =
          ps.map (·.token) ++ [.endOfFile finish] ∧
        Tiling " \nx\n".toList 0 ps ∧ finish.line.toNat = 3 :=
  have htiling := ofText_tiling " \nx\n"
    [⟨.name, "x", ⟨2, 1⟩⟩, ⟨.newline, "\n", ⟨2, 2⟩⟩, .endOfFile ⟨3, 1⟩] (by decide)
    (by decide +kernel)
  have ⟨ps, finish, htokens, hps, _, _, hline, _⟩ := htiling
  ⟨by decide, ps, finish, htokens, hps, hline⟩

end Lexed

end FrontEnd

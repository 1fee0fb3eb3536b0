-- SUMMARY: A text is cut into white space and the spellings of tokens, and scanned piece by piece.
import FrontEnd.Proofs.Source.Placement
import FrontEnd.Proofs.Token.Scanning

/-!
# Pieces of a text

Scanning is about the characters that a reader hands out, and these are not
quite those of the text: the newline of a blank line is handed out as a space.
Here scanning is told in terms of the text itself. A text is cut into pieces
(`Pieces`), each white space that is skipped or the spelling of a token, and what
the scan makes of a text follows the pieces. So what is true of the tokens of a
text can be proved by induction along the pieces, with no mention of what was
handed out.

Whether a newline is a piece to skip or a token depends on the line that it
ends, and so on the text in front. For all other characters nothing in front
matters: what is handed out as another character is spacing, and so never a part
of a lexeme.
-/

namespace FrontEnd

open Unicode Source

variable {before cs w : List Char} {c c' : Char} {σ : Spelling} {finish : Position}

-- ---------------------------------------------------------------------------
-- Characters that were handed out
-- ---------------------------------------------------------------------------

namespace Located

/-- A character that is handed out as another one is spacing. -/
theorem char_after_eq (h : isSpacing (after before c).char = false) :
    (after before c).char = c := by
  simp only [after] at h ⊢
  split at h
  · exact absurd h (by decide)
  · next hc => exact if_neg hc

/-- What is handed out as spacing is white space other than the newline of a filled line. -/
theorem isSpacing_char_after_iff : isSpacing (after before c).char = true ↔
    isWhiteSpace c = true ∧ (c = '\n' → (lastLine before).all isWhiteSpace = true) := by
  by_cases hc : c = '\n'
  · subst hc
    simp only [after]
    cases (lastLine before).all isWhiteSpace <;> decide
  · simp [after, hc, isSpacing_iff]

theorem char_after_of_filled (h : c = '\n' → (lastLine before).all isWhiteSpace = false) :
    (after before c).char = c := by
  by_cases hc : c = '\n'
  · simp [after, h hc]
  · simp [after, hc]

theorem map_char_located (h : ∀ d ∈ located before w, isSpacing d.char = false) :
    (located before w).map (·.char) = w := by
  induction w generalizing before with
  | nil => rfl
  | cons c w ih =>
    obtain ⟨hc, hw⟩ := List.forall_mem_cons.1 h
    rw [located_cons, List.map_cons, char_after_eq hc, ih hw]

/-- No token goes on with a newline, nor with the space that it may be handed out as. -/
theorem continues_char_after (hσ : Spelling.of? c' = some σ) (before : List Char) (c : Char) :
    σ.continues (after before c).char = σ.continues c := by
  have hnot : ∀ d, isWordPart d = false → σ.continues d = false := fun d hd =>
    Bool.eq_false_iff.2 fun h => by simp [Spelling.isWordPart_of_continues hσ h] at hd
  simp only [after]
  split
  · next hc =>
    obtain rfl : c = '\n' := by simpa using (Bool.and_eq_true_iff.1 hc).1
    rw [hnot '\n' (by decide +kernel), hnot ' ' (by decide +kernel)]
  · rfl

theorem continues_located_iff (hσ : Spelling.of? c' = some σ) :
    (∀ x ∈ located before w, σ.continues x.char = true) ↔ ∀ d ∈ w, σ.continues d = true := by
  induction w generalizing before with
  | nil => simp
  | cons d w ih =>
    rw [located_cons, List.forall_mem_cons, List.forall_mem_cons, continues_char_after hσ, ih]

theorem stops_located_iff (hσ : Spelling.of? c' = some σ) :
    (∀ x ∈ (located before cs).head?, σ.continues x.char = false) ↔
      ∀ d ∈ cs.head?, σ.continues d = false := by
  cases cs with
  | nil => simp
  | cons d cs => simp [continues_char_after hσ]

/-- White space is handed out as what is no part of a word. -/
theorem isWordPart_char_after (before : List Char) (h : isWhiteSpace c = true) :
    isWordPart (after before c).char = false := by
  refine Bool.eq_false_iff.2 fun hword => ?_
  have hwhite := isWhiteSpace_eq_false_of_isWordPart hword
  have hchar := @char_after_eq before c (by simp [isSpacing, hwhite])
  rw [hchar, h] at hwhite
  cases hwhite

end Located

/-- Whether no word goes on from `before` to `cs`. -/
def Source.Severed (before cs : List Char) : Prop :=
  ∀ c ∈ before.getLast?, ∀ d ∈ cs.head?, isWhiteSpace c = true ∨ isWhiteSpace d = true

theorem Source.Severed.apart (h : Severed before cs) :
    Lexed.Apart (located [] before) (located before cs) := by
  intro x hx y hy
  obtain rfl | ⟨front, c, rfl⟩ := List.eq_nil_or_concat before
  · cases hx
  cases cs with
  | nil => cases hy
  | cons d cs =>
    rw [List.concat_eq_append, located_append, List.nil_append] at hx
    obtain rfl : Located.after front c = x := by simpa using hx
    obtain rfl : Located.after _ d = y := by simpa using hy
    exact (h c (by simp) d rfl).imp (Located.isWordPart_char_after _)
      (Located.isWordPart_char_after _)

-- ---------------------------------------------------------------------------
-- Pieces
-- ---------------------------------------------------------------------------

/-- The ways in which a text behind `before` begins, each in front of a text that begins in one of
them. -/
inductive Pieces : List Char → List Char → Prop where
  | nil (before : List Char) : Pieces before []
  | spacing {before cs : List Char} {c : Char} (hc : isWhiteSpace c = true)
      (hblank : c = '\n' → (lastLine before).all isWhiteSpace = true)
      (h : Pieces (before ++ [c]) cs) : Pieces before (c :: cs)
  | token {before cs w : List Char} {c : Char} {σ : Spelling} (hσ : Spelling.of? c = some σ)
      (hfilled : c = '\n' → (lastLine before).all isWhiteSpace = false)
      (hw : ∀ d ∈ w, σ.continues d = true) (hstop : ∀ d ∈ cs.head?, σ.continues d = false)
      (h : Pieces (before ++ c :: w) cs) : Pieces before (c :: (w ++ cs))
  | invalid {before cs : List Char} {c : Char} (hc : isSpacing c = false)
      (hσ : Spelling.of? c = none) : Pieces before (c :: cs)

theorem pieces (before cs : List Char) : Pieces before cs := by
  generalize hxs : located before cs = xs
  induction segmented xs generalizing before cs with
  | nil =>
    obtain rfl := located_eq_nil hxs
    exact .nil before
  | spacing hc _ ih =>
    obtain ⟨c, cs, rfl, rfl, rfl⟩ := located_eq_cons hxs
    obtain ⟨hwhite, hblank⟩ := Located.isSpacing_char_after_iff.1 hc
    exact .spacing hwhite hblank (ih _ _ rfl)
  | token hσ hrun hstop _ ih =>
    obtain ⟨c, _, rfl, rfl, hrest⟩ := located_eq_cons hxs
    obtain ⟨w, cs, rfl, rfl, rfl⟩ := located_eq_append hrest.symm
    have hspacing := Spelling.isSpacing_eq_false hσ
    rw [Located.char_after_eq hspacing] at hσ
    refine .token hσ (fun hc => ?_) ((Located.continues_located_iff hσ).1 hrun)
      ((Located.stops_located_iff hσ).1 hstop) (ih _ _ (by simp))
    -- The newline of a blank line would be spacing.
    refine Bool.eq_false_iff.2 fun hblank => ?_
    have hwhite : isWhiteSpace c = true := hc ▸ by decide
    rw [Located.isSpacing_char_after_iff.2 ⟨hwhite, fun _ => hblank⟩] at hspacing
    cases hspacing
  | invalid hc hσ =>
    obtain ⟨c, cs, rfl, rfl, rfl⟩ := located_eq_cons hxs
    have hchar := Located.char_after_eq hc
    exact .invalid (hchar ▸ hc) (hchar ▸ hσ)

-- ---------------------------------------------------------------------------
-- The scan
-- ---------------------------------------------------------------------------

/-- The token that is spelled by characters of a text. -/
def Spelling.token (σ : Spelling) (position : Position) (w : List Char) : Token :=
  ⟨σ.kind (.ofList w), .ofList w, position⟩

@[simp] theorem Spelling.kind_token (σ : Spelling) (p : Position) (w : List Char) :
    (σ.token p w).kind = σ.kind (.ofList w) := rfl
@[simp] theorem Spelling.lexeme_token (σ : Spelling) (p : Position) (w : List Char) :
    (σ.token p w).lexeme = .ofList w := rfl
@[simp] theorem Spelling.position_token (σ : Spelling) (p : Position) (w : List Char) :
    (σ.token p w).position = p := rfl

/-- The token of characters that were handed out has the characters of the text as its lexeme. -/
theorem Lexer.tokenOf_located (hσ : Spelling.of? c = some σ)
    (hfilled : c = '\n' → (lastLine before).all isWhiteSpace = false)
    (hw : ∀ d ∈ w, σ.continues d = true) :
    tokenOf σ (.after before c) (located (before ++ [c]) w) = σ.token (.after before) (c :: w) := by
  have hspacing : ∀ x ∈ located (before ++ [c]) w, isSpacing x.char = false := fun x hx => by
    have hcontinues := (Located.continues_located_iff hσ).2 hw x hx
    simp [isSpacing, Spelling.isWhiteSpace_of_continues hσ hcontinues]
  rw [tokenOf, Located.char_after_of_filled hfilled, Located.map_char_located hspacing]
  rfl

/-- A lexeme with the kind that goes with it, in front of a character `next` that does not, or of
nothing. -/
def Token.Spelled (t : Token) (next : Option Char) : Prop :=
  ∃ σ p c w, Spelling.of? c = some σ ∧ (∀ d ∈ w, σ.continues d = true) ∧
    (∀ d ∈ next, σ.continues d = false) ∧ t = σ.token p (c :: w)

namespace Token.Spelled

variable {t : Token} {next : Option Char}

theorem kind_ne_endOfFile (h : t.Spelled next) : t.kind ≠ .endOfFile := by
  obtain ⟨σ, p, c, w, hσ, -, -, rfl⟩ := h
  exact Spelling.kind_ne_endOfFile hσ _

/-- What is behind a token can be left out. -/
theorem alone (h : t.Spelled next) : t.Spelled none := by
  obtain ⟨σ, p, c, w, hσ, hw, -, rfl⟩ := h
  exact ⟨σ, p, c, w, hσ, hw, nofun, rfl⟩

end Token.Spelled

namespace Lexed

theorem scan_skip (hc : isWhiteSpace c = true)
    (hblank : c = '\n' → (lastLine before).all isWhiteSpace = true) :
    scan finish (located before (c :: cs)) = scan finish (located (before ++ [c]) cs) :=
  scan_spacing (Located.isSpacing_char_after_iff.2 ⟨hc, hblank⟩)

theorem scan_piece (hσ : Spelling.of? c = some σ)
    (hfilled : c = '\n' → (lastLine before).all isWhiteSpace = false)
    (hw : ∀ d ∈ w, σ.continues d = true) (hstop : ∀ d ∈ cs.head?, σ.continues d = false) :
    scan finish (located before (c :: (w ++ cs))) =
      (scan finish (located (before ++ c :: w) cs)).behind [σ.token (.after before) (c :: w)] := by
  have hσ' : Spelling.of? (Located.after before c).char = some σ := by
    rwa [Located.char_after_of_filled hfilled]
  rw [located_cons, located_append, scan_token hσ' ((Located.continues_located_iff hσ).2 hw)
    ((Located.stops_located_iff hσ).2 hstop), Lexer.tokenOf_located hσ hfilled hw,
    List.append_assoc, List.singleton_append]

theorem scan_offending (hc : isSpacing c = false) (hσ : Spelling.of? c = none) :
    scan finish (located before (c :: cs)) =
      { tokens := [], error := some ⟨c, .after before⟩ } := by
  have hchar : (Located.after before c).char = c := by
    refine Located.char_after_of_filled fun h => ?_
    simp [h, Spelling.of?_newline] at hσ
  rw [located_cons, scan_invalid (by rwa [hchar]) (by rwa [hchar]), hchar, Located.position_after]

end Lexed

end FrontEnd

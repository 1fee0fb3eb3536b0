-- SUMMARY: Changes of the layout of a text leave its kinds and lexemes and its offending character as they are.
import FrontEnd.Proofs.Token.Respacing

/-!
# Layout

White space within the lines of a text can be changed and blank lines can be
added (`Relaid`). Such a change leaves what the lexer makes of the text the same,
but for the positions behind it.

Two things carry over the place of a change. A token in front of it does not go
on there, because white space follows or a line is over. And the only thing that
scanning remembers of the text before is whether the line is blank so far, which
white space does not change (`scan_alike`).
-/

namespace FrontEnd

open Unicode Source

variable {before before' u v after cs : List Char} {c : Char} {finish finish' : Position}

-- ---------------------------------------------------------------------------
-- Changes of the layout
-- ---------------------------------------------------------------------------

namespace Source

/-- Whether a line starts behind `before`. -/
def LineStart (before : List Char) : Prop :=
  before = [] ∨ before.getLast? = some '\n'

/-- Whether a line ends in front of `after`. -/
def LineEnd (after : List Char) : Prop :=
  after = [] ∨ after.head? = some '\n'

/-- White space within a line. -/
def Within (v : List Char) : Prop :=
  ∀ d ∈ v, isWhiteSpace d = true ∧ d ≠ '\n'

instance (v : List Char) : Decidable (Within v) :=
  List.decidableBAll _ v

/-- The changes of the layout that put `v` in the place of `u`. -/
inductive Relaid (before : List Char) : (u v after : List Char) → Prop where
  /-- White space stands for white space. -/
  | widen {c : Char} {v after : List Char} (hc : Within [c]) (hv : Within v) (hne : v ≠ []) :
      Relaid before [c] v after
  /-- There is more white space at the start of a line. -/
  | indent {v after : List Char} (hstart : LineStart before) (hv : Within v) :
      Relaid before [] v after
  /-- There is more white space at the end of a line. -/
  | trail {v after : List Char} (hend : LineEnd after) (hv : Within v) : Relaid before [] v after
  /-- There are blank lines in front of a line. -/
  | blankLines {v after : List Char} (hstart : LineStart before)
      (hv : ∀ d ∈ v, isWhiteSpace d = true) (hlast : v.getLast? = some '\n') :
      Relaid before [] v after

theorem LineStart.blank (h : LineStart before) : (lastLine before).all isWhiteSpace = true := by
  obtain rfl | hlast := h
  · rfl
  · obtain ⟨v, rfl⟩ := List.getLast?_eq_some_iff.1 hlast
    rw [lastLine_newline, List.all_nil]

/-- White space none of whose newlines ends a filled line. -/
structure Skipped (before v : List Char) : Prop where
  white : ∀ d ∈ v, isWhiteSpace d = true
  blank : '\n' ∈ v → (lastLine before).all isWhiteSpace = true

theorem Within.skipped (h : Within v) (before : List Char) : Skipped before v where
  white d hd := (h d hd).1
  blank hd := absurd rfl (h '\n' hd).2

theorem Skipped.nil (before : List Char) : Skipped before [] where
  white := by simp
  blank := by simp

theorem Relaid.skipped (h : Relaid before u v after) : Skipped before u ∧ Skipped before v := by
  cases h with
  | widen hc hv _ => exact ⟨hc.skipped _, hv.skipped _⟩
  | indent _ hv => exact ⟨.nil _, hv.skipped _⟩
  | trail _ hv => exact ⟨.nil _, hv.skipped _⟩
  | blankLines hstart hv _ => exact ⟨.nil _, hv, fun _ => hstart.blank⟩

theorem Skipped.tail (h : Skipped before (c :: v)) : Skipped (before ++ [c]) v where
  white := (List.forall_mem_cons.1 h.white).2
  blank hd := blank_concat (h.white c (.head v)) (h.blank (.tail c hd))

/-- Texts whose last lines are both blank or both filled stay so when they go on alike. -/
theorem blank_append_congr
    (h : (lastLine before).all isWhiteSpace = (lastLine before').all isWhiteSpace)
    (v : List Char) :
    (lastLine (before ++ v)).all isWhiteSpace = (lastLine (before' ++ v)).all isWhiteSpace := by
  induction v using List.reverseRecOn with
  | nil => simpa using h
  | append_singleton v c ih =>
    rw [← List.append_assoc, ← List.append_assoc]
    by_cases hc : c = '\n'
    · rw [hc, lastLine_newline, lastLine_newline]
    · rw [lastLine_concat hc, lastLine_concat hc, List.all_append, List.all_append, ih]

/-- What is skipped leaves a blank line blank and a filled line filled. -/
theorem Skipped.blank_append (h : Skipped before v) :
    (lastLine (before ++ v)).all isWhiteSpace = (lastLine before).all isWhiteSpace := by
  induction v generalizing before with
  | nil => rw [List.append_nil]
  | cons c v ih =>
    rw [← List.singleton_append, ← List.append_assoc, ih h.tail]
    by_cases hc : c = '\n'
    · subst hc
      rw [lastLine_newline, h.blank (.head v), List.all_nil]
    · rw [lastLine_concat hc, List.all_append, List.all_cons, h.white c (.head v), List.all_nil,
        Bool.and_self, Bool.and_true]

theorem LineStart.severed (h : LineStart before) (cs : List Char) : Severed before cs := by
  intro c hc _ _
  obtain rfl | hlast := h
  · cases hc
  · obtain rfl := Option.some.inj (hlast.symm.trans hc)
    exact .inl (by decide)

theorem LineEnd.severed (h : LineEnd after) (before : List Char) : Severed before after := by
  intro _ _ d hd
  obtain rfl | hhead := h
  · cases hd
  · obtain rfl := Option.some.inj (hhead.symm.trans hd)
    exact .inr (by decide)

theorem Within.severed (h : Within v) (hafter : v = [] → Severed before after) :
    Severed before (v ++ after) := by
  cases v with
  | nil => exact hafter rfl
  | cons d v =>
    rintro _ _ _ ⟨⟩
    exact .inr (h d (.head v)).1

theorem Relaid.severed (h : Relaid before u v after) :
    Severed before (u ++ after) ∧ Severed before (v ++ after) := by
  cases h with
  | widen hc hv hne => exact ⟨hc.severed nofun, hv.severed fun h => absurd h hne⟩
  | indent hstart _ => exact ⟨hstart.severed _, hstart.severed _⟩
  | trail hend hv => exact ⟨hend.severed _, hv.severed fun _ => hend.severed _⟩
  | blankLines hstart _ _ => exact ⟨hstart.severed _, hstart.severed _⟩

end Source

-- ---------------------------------------------------------------------------
-- Scans on both sides
-- ---------------------------------------------------------------------------

namespace Lexed

theorem scan_skipped (h : Skipped before v) :
    scan finish (located before (v ++ cs)) = scan finish (located (before ++ v) cs) := by
  induction v generalizing before with
  | nil => simp
  | cons c v ih =>
    have hblank (hc : c = '\n') := h.blank (hc ▸ .head v)
    rw [List.cons_append, scan_skip (h.white c (.head v)) hblank, ih h.tail, List.append_assoc,
      List.singleton_append]

/-- Of the text before, scanning goes by nothing but whether the line is blank so far. -/
theorem scan_alike
    (h : (lastLine before).all isWhiteSpace = (lastLine before').all isWhiteSpace)
    (finish finish' : Position) (cs : List Char) :
    (scan finish' (located before' cs)).tokens.map Token.spelling =
        (scan finish (located before cs)).tokens.map Token.spelling ∧
      ((scan finish (located before cs)).error = none ∧
          (scan finish' (located before' cs)).error = none ∨
        ∃ ds c es, cs = ds ++ c :: es ∧
          (scan finish (located before cs)).error = some ⟨c, .after (before ++ ds)⟩ ∧
          (scan finish' (located before' cs)).error = some ⟨c, .after (before' ++ ds)⟩) := by
  induction pieces before cs generalizing before' with
  | nil before =>
    rw [located_nil, located_nil, scan_nil, scan_nil]
    exact ⟨rfl, .inl ⟨rfl, rfl⟩⟩
  | @spacing before cs c hc hblank _ ih =>
    rw [scan_skip hc hblank, scan_skip hc fun hc => h ▸ hblank hc]
    obtain ⟨htokens, herror⟩ := ih (blank_append_congr h [c])
    refine ⟨htokens, herror.imp_right ?_⟩
    rintro ⟨ds, d, es, rfl, hscan, hscan'⟩
    exact ⟨c :: ds, d, es, rfl, by simpa using hscan, by simpa using hscan'⟩
  | @token before cs w c σ hσ hfilled hw hstop _ ih =>
    rw [scan_piece hσ hfilled hw hstop, scan_piece hσ (fun hc => h ▸ hfilled hc) hw hstop]
    obtain ⟨htokens, herror⟩ := ih (blank_append_congr h (c :: w))
    refine ⟨congrArg ((σ.kind (.ofList (c :: w)), String.ofList (c :: w)) :: ·) htokens,
      herror.imp_right ?_⟩
    rintro ⟨ds, d, es, rfl, hscan, hscan'⟩
    exact ⟨c :: (w ++ ds), d, es, by simp, by simpa using hscan, by simpa using hscan'⟩
  | @invalid before cs c hc hσ =>
    rw [scan_offending hc hσ, scan_offending hc hσ]
    exact ⟨rfl, .inr ⟨[], c, cs, rfl, by simp, by simp⟩⟩

/-- Scanning goes on behind what is skipped as if it had stopped in front of it. -/
theorem scan_resumed (h : Skipped before v) (hsevered : Severed before (v ++ after)) :
    scan finish (located [] (before ++ v ++ after)) =
      (scan (.after before) (located [] before)).andThen
        (scan finish (located (before ++ v) after)) := by
  rw [List.append_assoc, located_append, List.nil_append,
    scan_append (.after before) hsevered.apart, scan_skipped h]

theorem exists_of_error_scan {e : InvalidCharacter}
    (h : (scan finish (located before cs)).error = some e) :
    ∃ ds c es, cs = ds ++ c :: es ∧ e = ⟨c, .after (before ++ ds)⟩ := by
  obtain ⟨ps, ds, es, rfl, -, -, ⟨-, hscan⟩ | ⟨c, fs, rfl, hscan⟩⟩ := placed_scan finish before cs
  · simp [hscan] at h
  · rw [hscan] at h
    exact ⟨ds, c, fs, rfl, (Option.some.inj h).symm⟩

/-- A change of the layout leaves the kinds and the lexemes as they are. Either both texts scan to
their ends, or both scans stop at the same character, in front of the change or behind it. -/
theorem ofText_relaid {s s' : String} (h : Relaid before u v after)
    (hs : s.toList = before ++ u ++ after) (hs' : s'.toList = before ++ v ++ after) :
    (ofText s').tokens.map Token.spelling = (ofText s).tokens.map Token.spelling ∧
      ((ofText s).error = none ∧ (ofText s').error = none ∨
        (∃ ds c es, before = ds ++ c :: es ∧ (ofText s).error = some ⟨c, .after ds⟩ ∧
          (ofText s').error = some ⟨c, .after ds⟩) ∨
        ∃ ds c es, after = ds ++ c :: es ∧
          (ofText s).error = some ⟨c, .after (before ++ u ++ ds)⟩ ∧
          (ofText s').error = some ⟨c, .after (before ++ v ++ ds)⟩) := by
  obtain ⟨hu, hv⟩ := h.skipped
  obtain ⟨husevered, hvsevered⟩ := h.severed
  obtain ⟨htokens, herror⟩ := scan_alike (hu.blank_append.trans hv.blank_append.symm)
    (.atEnd (before ++ u ++ after)) (.atEnd (before ++ v ++ after)) after
  rw [ofText_eq, ofText_eq, hs, hs', scan_resumed hu husevered, scan_resumed hv hvsevered]
  cases hfront : (scan (.after before) (located [] before)).error with
  | none =>
    simp only [andThen, hfront, tokens_behind, error_behind, List.map_append, htokens, true_and]
    exact herror.imp_right .inr
  | some e =>
    obtain ⟨ds, c, es, hbefore, rfl⟩ := exists_of_error_scan hfront
    simp only [andThen, hfront, true_and]
    exact .inr (.inl ⟨ds, c, es, hbefore, rfl, rfl⟩)

/-- A space and a line separator stand for a tab in front of a number that goes on wrongly. -/
theorem ofText_relaid_tab :
    Relaid ['x', '='] ['\t'] [' ', '\u2028'] ['3', '²'] ∧
      (ofText "x=\t3²").error = some ⟨'²', ⟨1, 5⟩⟩ ∧
      (ofText "x= \u20283²").error = some ⟨'²', ⟨1, 6⟩⟩ ∧
      (ofText "x= \u20283²").tokens.map Token.spelling =
        (ofText "x=\t3²").tokens.map Token.spelling := by
  have hc : Within ['\t'] := by decide +kernel
  have hv : Within [' ', '\u2028'] := by decide +kernel
  have hrelaid : Relaid ['x', '='] ['\t'] [' ', '\u2028'] ['3', '²'] := .widen hc hv nofun
  exact ⟨hrelaid, by decide +kernel, by decide +kernel, (ofText_relaid hrelaid rfl rfl).1⟩

end Lexed

end FrontEnd

-- SUMMARY: Every token is the longest of its kind where it stands, and every word of a text is a token.
import FrontEnd.Proofs.Token.Offending

/-!
# Longest tokens

The kind of a token says what its lexeme looks like, and also what cannot stand
behind it. A number goes on as long as there are digits, a word as long as there
are letters, digits, numbers of any script or `_`. So `12ab` is a number and a
word and `a12` is one word. All other tokens are single characters.

Conversely, a letter or `_` that does not go on with a word starts one. It is in
some token, because nothing but white space is outside of all of them, and it can
only be the first character there.
-/

namespace FrontEnd

open Unicode Source

variable {w : List Char} {c : Char}

-- ---------------------------------------------------------------------------
-- Kinds and lexemes
-- ---------------------------------------------------------------------------

/-- The lexeme is one that the kind of the token has, and with the character `next` behind it, if
there is one, it would not be. -/
structure Token.Longest (t : Token) (next : Option Char) : Prop where
  number : t.kind = .unsignedInt →
    t.lexeme ≠ "" ∧ (∀ d ∈ t.lexeme.toList, d.isDigit = true) ∧ ∀ d ∈ next, d.isDigit = false
  word : t.kind = .name ∨ t.kind = .print →
    (∃ c w, t.lexeme.toList = c :: w ∧ isWordStart c = true ∧ ∀ d ∈ w, isWordPart d = true) ∧
      ∀ d ∈ next, isWordPart d = false
  reserved : t.kind = .print ↔ t.lexeme = "print"
  symbol : t.kind ∉ [.unsignedInt, .name, .print] →
    ∃ c, t.lexeme = .singleton c ∧ (c, t.kind) ∈ Kind.symbols

/-- All of a word is made of parts of words, its first character too. -/
theorem Token.Longest.isWordPart {t : Token} {next : Option Char} (h : t.Longest next)
    (hkind : t.kind = .name ∨ t.kind = .print) :
    ∀ d ∈ t.lexeme.toList, FrontEnd.isWordPart d = true := by
  obtain ⟨⟨c, w, hlexeme, hc, hw⟩, -⟩ := h.word hkind
  rw [hlexeme]
  exact List.forall_mem_cons.2 ⟨isWordPart_of_isWordStart hc, hw⟩

namespace Spelling

variable {next : Option Char} (p : Position)

theorem longest_number (hc : c.isDigit = true) (hw : ∀ d ∈ w, d.isDigit = true)
    (hnext : ∀ d ∈ next, d.isDigit = false) : (number.token p (c :: w)).Longest next where
  number _ := by simpa [hc] using ⟨hw, hnext⟩
  word h := by simp [number] at h
  reserved := by
    refine iff_of_false (by simp [number]) fun h => ?_
    have hlist : c :: w = "print".toList := by rw [← h, lexeme_token, String.toList_ofList]
    obtain ⟨rfl, -⟩ := List.cons.inj hlist
    cases hc
  symbol h := by simp [number] at h

theorem kind_token_word (w : List Char) :
    (word.token p w).kind = .print ∨ (word.token p w).kind = .name :=
  Kind.ofWord_cases _

theorem longest_word (hc : isWordStart c = true) (hw : ∀ d ∈ w, isWordPart d = true)
    (hnext : ∀ d ∈ next, isWordPart d = false) : (word.token p (c :: w)).Longest next where
  number h := by
    obtain hkind | hkind := kind_token_word p (c :: w) <;> cases h.symm.trans hkind
  word _ := ⟨⟨c, w, String.toList_ofList, hc, hw⟩, hnext⟩
  reserved := Kind.ofWord_eq_print_iff
  symbol h := by
    refine absurd ?_ h
    obtain hkind | hkind := kind_token_word p (c :: w) <;> rw [hkind] <;> decide

theorem longest_symbol {k : Kind} (hk : (c, k) ∈ Kind.symbols) :
    ((symbol k).token p [c]).Longest next := by
  have hnot : ∀ x ∈ Kind.symbols, x.2 ≠ .unsignedInt ∧ x.2 ≠ .name ∧ x.2 ≠ .print := by decide
  obtain ⟨hnumber, hname, hprint⟩ := hnot _ hk
  constructor
  case number => exact fun h => absurd h hnumber
  case word => exact fun h => h.elim (absurd · hname) (absurd · hprint)
  case reserved =>
    refine iff_of_false hprint fun h => ?_
    have hlength : [c].length = "print".length := by rw [← h, lexeme_token, String.length_ofList]
    cases hlength
  case symbol => exact fun _ => ⟨c, String.singleton_eq_ofList.symm, hk⟩

end Spelling

theorem Token.Spelled.longest {t : Token} {next : Option Char} (h : t.Spelled next) :
    t.Longest next := by
  obtain ⟨σ, p, c, w, hσ, hw, hnext, rfl⟩ := h
  obtain ⟨hc, rfl⟩ | ⟨hc, rfl⟩ | ⟨k, hk, rfl⟩ := Spelling.of?_cases hσ
  · exact Spelling.longest_number p hc hw hnext
  · exact Spelling.longest_word p hc hw hnext
  · obtain rfl := Spelling.eq_nil_of_symbol hw
    exact Spelling.longest_symbol p (Kind.mem_symbols hk)

-- ---------------------------------------------------------------------------
-- Places
-- ---------------------------------------------------------------------------

namespace Tiling

variable {text : List Char} {first i : Nat} {ps : List Placed} {p : Placed}

/-- What is no white space is in a token. -/
theorem exists_placed (h : Tiling text first ps) (hi : i < text.length) (hfirst : first ≤ i)
    (hc : isWhiteSpace text[i] = false) : ∃ p ∈ ps, p.start ≤ i ∧ i < p.stop := by
  by_contra hnone
  have hgap : isWhiteSpace text[i] = true := h.gaps i hi hfirst fun p hp => by
    have hout : ¬ (p.start ≤ i ∧ i < p.stop) := fun hin => hnone ⟨p, hp, hin⟩
    omega
  simp [hc] at hgap

theorem getElem?_lexeme (h : Tiling text first ps) (hp : p ∈ ps)
    (hi : i < p.token.lexeme.length) : text[p.start + i]? = p.token.lexeme.toList[i]? := by
  rw [← h.slice p hp, List.getElem?_take_of_lt hi, List.getElem?_drop]

/-- A character that starts a word, and does not go on with one, is the first of a token. -/
theorem exists_word (h : Tiling text 0 ps) (hlongest : ∀ p ∈ ps, p.token.Longest text[p.stop]?)
    (hi : text[i]? = some c) (hc : isWordStart c = true)
    (hprevious : ∀ d ∈ (text.take i).getLast?, isWordPart d = false) :
    ∃ p ∈ ps, p.start = i ∧ (p.token.kind = .name ∨ p.token.kind = .print) := by
  obtain ⟨hlt, hget⟩ := List.getElem?_eq_some_iff.1 hi
  have hpart : isWordPart c = true := isWordPart_of_isWordStart hc
  have hwhite : isWhiteSpace text[i] = false := hget ▸ isWhiteSpace_eq_false_of_isWordPart hpart
  obtain ⟨p, hp, hstart, hstop⟩ := h.exists_placed hlt (Nat.zero_le i) hwhite
  rw [Placed.stop] at hstop
  have hchar : p.token.lexeme.toList[i - p.start]? = some c := by
    rw [← h.getElem?_lexeme hp (by omega), Nat.add_sub_cancel' hstart, hi]
  have hmem : c ∈ p.token.lexeme.toList := List.mem_of_getElem? hchar
  have hnumber : p.token.kind ≠ .unsignedInt := fun hkind => by
    have hdigit := ((hlongest p hp).number hkind).2.1 c hmem
    simp [isDigit_eq_false_of_isWordStart hc] at hdigit
  by_cases hkind : p.token.kind = .name ∨ p.token.kind = .print
  · refine ⟨p, hp, Nat.le_antisymm hstart (Nat.le_of_not_lt fun hinside => ?_), hkind⟩
    -- The character in front would be a part of the same word.
    have hinner : i - 1 - p.start < p.token.lexeme.length := by omega
    have hlast : (text.take i).getLast? = p.token.lexeme.toList[i - 1 - p.start]? := by
      rw [← h.getElem?_lexeme hp hinner, List.getLast?_take, if_neg (by omega),
        show p.start + (i - 1 - p.start) = i - 1 by omega,
        List.getElem?_eq_getElem (by omega), Option.some_or]
    rw [← String.length_toList] at hinner
    rw [hlast, List.getElem?_eq_getElem hinner] at hprevious
    have hpart := (hlongest p hp).isWordPart hkind _ (List.getElem_mem hinner)
    simp [hprevious _ rfl] at hpart
  · obtain ⟨x, hx, hsymbol⟩ := (hlongest p hp).symbol (by simp_all)
    obtain rfl : c = x := by simpa [hx] using hmem
    simp [Kind.isWordPart_of_mem_symbols hsymbol] at hpart

end Tiling

namespace Lexed

/-- The tokens of a text stand in it one behind the other, with nothing but white space between
them, up to the character that starts no token or to the end. Each is the longest of its kind in its
place, and none stands for an error. Where scanning comes to the end, every character that starts a
word, and does not go on with one, is the first of a token. -/
theorem ofText_longest (text : String) :
    ∃ ps n, (ofText text).tokens.filter (·.kind ≠ .endOfFile) = ps.map (·.token) ∧
      (ofText text).error.map (·.found) = text.toList[n]? ∧ Tiling (text.toList.take n) 0 ps ∧
      (∀ p ∈ ps, p.token.Longest text.toList[p.stop]?) ∧
      (∀ t ∈ (ofText text).tokens, t.kind ≠ .error) ∧
      ∀ ts, (ofText text).result = .ok ts → ∀ i c, text.toList[i]? = some c →
        isWordStart c = true → (∀ d ∈ (text.toList.take i).getLast?, isWordPart d = false) →
        ∃ p ∈ ps, p.start = i ∧ (p.token.kind = .name ∨ p.token.kind = .print) := by
  rw [ofText_eq]
  obtain ⟨ps, ds, es, htext, htiling, hps, hscan⟩ := placed_scan (.atEnd text.toList) [] text.toList
  have hlongest : ∀ p ∈ ps, p.token.Longest text.toList[p.stop]? := fun p hp => (hps p hp).longest
  have hkinds : ∀ t ∈ ps.map (·.token), t.kind ≠ .endOfFile :=
    List.forall_mem_map.2 fun p hp => (hps p hp).kind_ne_endOfFile
  have hfilter : (ps.map (·.token)).filter (·.kind ≠ .endOfFile) = ps.map (·.token) :=
    List.filter_eq_self.2 fun t ht => decide_eq_true (hkinds t ht)
  have htake : text.toList.take ds.length = ds := by rw [htext, List.take_left]
  have hnext : text.toList[ds.length]? = es.head? := by
    rw [htext, List.getElem?_append_right (Nat.le_refl _), Nat.sub_self, List.head?_eq_getElem?]
  refine ⟨ps, ds.length, ?_, ?_, htake.symm ▸ htiling, hlongest, fun t => kind_ne_error_of_mem_scan,
    fun ts hts => ?_⟩
  · obtain ⟨-, hscan⟩ | ⟨c, fs, -, hscan⟩ := hscan
    · rw [hscan, List.filter_append, hfilter]
      exact List.append_nil _
    · rw [hscan, hfilter]
  · rw [hnext]
    obtain ⟨rfl, hscan⟩ | ⟨c, fs, rfl, hscan⟩ := hscan <;> rw [hscan] <;> rfl
  · obtain ⟨rfl, -⟩ | ⟨c, fs, -, hscan⟩ := hscan
    · rw [List.append_nil] at htext
      exact fun i c => (htext ▸ htiling).exists_word hlongest
    · rw [hscan] at hts
      cases hts

/-- In `12ab _²` a number is followed by a word that starts where the digits are over, and `_`
starts one because of the space in front. -/
theorem ofText_longest_words :
    (ofText "12ab _²").result =
        .ok [⟨.unsignedInt, "12", ⟨1, 1⟩⟩, ⟨.name, "ab", ⟨1, 3⟩⟩, ⟨.name, "_²", ⟨1, 6⟩⟩,
          .endOfFile ⟨1, 1⟩] ∧
      "12ab _²".toList[5]? = some '_' ∧ isWordStart '_' = true ∧
      ∃ ps n, Tiling ("12ab _²".toList.take n) 0 ps ∧
        ps.map (·.token) = [⟨.unsignedInt, "12", ⟨1, 1⟩⟩, ⟨.name, "ab", ⟨1, 3⟩⟩,
          ⟨.name, "_²", ⟨1, 6⟩⟩] ∧
        (∀ p ∈ ps, p.token.Longest "12ab _²".toList[p.stop]?) ∧ ∃ p ∈ ps, p.start = 5 := by
  have hresult : (ofText "12ab _²").result =
      .ok [⟨.unsignedInt, "12", ⟨1, 1⟩⟩, ⟨.name, "ab", ⟨1, 3⟩⟩, ⟨.name, "_²", ⟨1, 6⟩⟩,
        .endOfFile ⟨1, 1⟩] := by decide +kernel
  have hc : isWordStart '_' = true := by decide +kernel
  have hlast : ("12ab _²".toList.take 5).getLast? = some ' ' := by decide
  have hprevious : ∀ d ∈ ("12ab _²".toList.take 5).getLast?, isWordPart d = false := by
    rw [hlast]
    rintro d ⟨⟩
    decide +kernel
  obtain ⟨ps, n, htokens, -, htiling, hlongest, -, hwords⟩ := ofText_longest "12ab _²"
  obtain ⟨p, hp, hstart, -⟩ := hwords _ hresult 5 '_' rfl hc hprevious
  refine ⟨hresult, rfl, hc, ps, n, htiling, ?_, hlongest, p, hp, hstart⟩
  rw [← htokens, (result_eq_ok hresult).2]
  rfl

end Lexed

end FrontEnd

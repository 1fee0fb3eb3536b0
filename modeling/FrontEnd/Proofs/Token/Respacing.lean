-- SUMMARY: Scanning what the tokens of a text are written as, spaced out, gives the same kinds and lexemes.
import FrontEnd.Proofs.Token.Newlines

/-!
# Respacing

A list of tokens can be written as a text again, each lexeme followed by a space
and each newline as itself. When the tokens are those of a text this does not
change them. No lexeme grows into the space behind it, and a lexeme scanned by
itself is of the kind it was before, because that depends on its characters
alone. A newline is a token again because of the token that it had in front of
it, which is on its line.
-/

namespace FrontEnd

open Unicode Source

variable {before cs w : List Char} {c : Char} {finish : Position} {t : Token} {ts : Tokens}

namespace Token

/-- A token without its place. -/
def spelling (t : Token) : Kind × String :=
  (t.kind, t.lexeme)

/-- The token in a text of spaced lexemes. -/
def respaced (t : Token) : List Char :=
  match t.kind with
  | .newline => ['\n']
  | .endOfFile => []
  | _ => t.lexeme.toList ++ [' ']

theorem respaced_of_newline (h : t.kind = .newline) : t.respaced = ['\n'] := by
  rw [respaced, h]

theorem respaced_of_endOfFile (h : t.kind = .endOfFile) : t.respaced = [] := by
  rw [respaced, h]

theorem respaced_of_ne (hnewline : t.kind ≠ .newline) (hend : t.kind ≠ .endOfFile) :
    t.respaced = t.lexeme.toList ++ [' '] := by
  unfold respaced
  split <;> simp_all

end Token

/-- The text of a list of tokens: its lexemes, each followed by a space, and its newlines. -/
def Tokens.respaced (ts : Tokens) : String :=
  .ofList (ts.flatMap Token.respaced)

namespace Lexed

theorem spelled_of_mem_scan (h : t ∈ (scan finish (located before cs)).tokens)
    (hend : t.kind ≠ .endOfFile) : t.Spelled none := by
  obtain ⟨ps, ds, es, -, -, hps, hscan⟩ := placed_scan finish before cs
  have hmem : t ∈ ps.map (·.token) := by
    obtain ⟨-, hscan⟩ | ⟨c, fs, -, hscan⟩ := hscan <;> rw [hscan] at h
    · refine (List.mem_append.1 h).resolve_right fun h => ?_
      exact hend (List.mem_singleton.1 h ▸ rfl)
    · exact h
  obtain ⟨p, hp, rfl⟩ := List.mem_map.1 hmem
  exact (hps p hp).alone

/-- A token is scanned again from what it is written as, provided that a newline has more than white
space before it on its line. -/
theorem scan_respaced_append (h : t.Spelled none)
    (hfilled : t.kind = .newline → (lastLine before).all isWhiteSpace = false) (cs : List Char) :
    ∃ u, u.spelling = t.spelling ∧ scan finish (located before (t.respaced ++ cs)) =
      (scan finish (located (before ++ t.respaced) cs)).behind [u] := by
  obtain ⟨σ, p, c, w, hσ, hw, -, rfl⟩ := h
  have hkind := Spelling.kind_eq_newline_iff hσ (.ofList (c :: w))
  refine ⟨σ.token (.after before) (c :: w), rfl, ?_⟩
  by_cases hc : c = '\n'
  · subst hc
    obtain rfl := Option.some.inj (Spelling.of?_newline.symm.trans hσ)
    obtain rfl := Spelling.eq_nil_of_symbol hw
    rw [Token.respaced_of_newline rfl]
    exact scan_piece hσ (fun _ => hfilled rfl) hw fun _ _ => rfl
  · have hstop : ∀ d ∈ (' ' :: cs).head?, σ.continues d = false := by
      rintro d ⟨⟩
      refine Bool.eq_false_iff.2 fun h => ?_
      cases Spelling.isWhiteSpace_of_continues hσ h
    have hspace : (' ' : Char) ≠ '\n' := by decide
    rw [Token.respaced_of_ne (mt hkind.1 hc) (Spelling.kind_ne_endOfFile hσ _),
      Spelling.lexeme_token, String.toList_ofList, List.append_assoc, List.cons_append,
      List.singleton_append, scan_piece hσ (absurd · hc) hw hstop,
      scan_skip (by decide) (absurd · hspace), List.append_assoc, List.cons_append]

/-- Only behind a newline there is nothing but white space on the line. -/
theorem kind_of_blank_respaced (h : t.Spelled none)
    (hblank : (lastLine (before ++ t.respaced)).all isWhiteSpace = true) : t.kind = .newline := by
  obtain ⟨σ, p, c, w, hσ, hw, -, rfl⟩ := h
  by_contra hkind
  have hc : c ≠ '\n' := mt (Spelling.kind_eq_newline_iff hσ (.ofList (c :: w))).2 hkind
  have hline : '\n' ∉ c :: w ++ [' '] := by
    simpa [hc.symm] using Spelling.newline_not_mem hσ hw
  rw [Token.respaced_of_ne hkind (Spelling.kind_ne_endOfFile hσ _), Spelling.lexeme_token,
    String.toList_ofList, lastLine_append hline] at hblank
  have hwhite := List.all_eq_true.1 hblank c (by simp)
  exact hc ((Spelling.isWhiteSpace_of_of? hσ "").2 hwhite)

theorem scan_respaced (hts : ∀ t ∈ ts, t.Spelled none)
    (hhead : (lastLine before).all isWhiteSpace = true → ∀ t ∈ ts.head?, t.kind ≠ .newline)
    (hchain : ts.IsChain fun t u => t.kind = .newline → u.kind ≠ .newline) :
    (scan finish (located before (ts.flatMap Token.respaced))).error = none ∧
      (scan finish (located before (ts.flatMap Token.respaced))).tokens.map Token.spelling =
        ts.map Token.spelling ++ [(.endOfFile, "")] := by
  induction ts generalizing before with
  | nil =>
    rw [List.flatMap_nil, located_nil, scan_nil]
    exact ⟨rfl, rfl⟩
  | cons t ts ih =>
    obtain ⟨ht, hts⟩ := List.forall_mem_cons.1 hts
    obtain ⟨hnext, hchain⟩ := List.isChain_cons.1 hchain
    have hfilled (hkind : t.kind = .newline) : (lastLine before).all isWhiteSpace = false :=
      Bool.eq_false_iff.2 fun hblank => hhead hblank t rfl hkind
    obtain ⟨herror, htokens⟩ := @ih (before ++ t.respaced) hts
      (fun hblank u hu => hnext u hu (kind_of_blank_respaced ht hblank)) hchain
    obtain ⟨u, hu, hscan⟩ := scan_respaced_append ht hfilled (ts.flatMap Token.respaced)
    rw [List.flatMap_cons, hscan]
    exact ⟨herror, congrArg₂ List.cons hu htokens⟩

/-- The tokens of a text, spaced out, are a text with the same kinds and lexemes. -/
theorem ofText_respaced (text : String) (ts : Tokens) (h : (ofText text).result = .ok ts) :
    ∃ us, (ofText ts.respaced).result = .ok us ∧
      us.map Token.spelling = ts.map Token.spelling := by
  obtain ⟨ts, hkinds, rfl⟩ := exists_of_result_eq_ok h
  obtain ⟨-, htokens⟩ := result_eq_ok h
  rw [ofText_eq] at htokens
  have hts : ∀ t ∈ ts, t.Spelled none := fun t ht =>
    spelled_of_mem_scan (htokens ▸ List.mem_append_left _ ht) (hkinds t ht)
  obtain ⟨hhead, hchain⟩ := newlines_apart_scan (.atEnd text.toList) [] text.toList
  rw [htokens] at hhead hchain
  have hfirst : ∀ t ∈ ts.head?, t.kind ≠ .newline := fun t ht =>
    hhead rfl t (by rw [List.head?_append, Option.mem_def.1 ht, Option.some_or]; rfl)
  have hrespaced : (Tokens.respaced (ts ++ [.endOfFile (.atEnd text.toList)])).toList =
      ts.flatMap Token.respaced := by
    rw [Tokens.respaced, String.toList_ofList, List.flatMap_append, List.flatMap_singleton,
      Token.respaced_of_endOfFile rfl, List.append_nil]
  have hscan := ofText_eq (Tokens.respaced (ts ++ [.endOfFile (.atEnd text.toList)]))
  rw [hrespaced] at hscan
  obtain ⟨herror, hspellings⟩ : (scan (.atEnd (ts.flatMap Token.respaced))
      (located [] (ts.flatMap Token.respaced))).error = none ∧ _ :=
    scan_respaced hts (fun _ => hfirst) (List.isChain_append.1 hchain).1
  rw [← hscan] at herror hspellings
  refine ⟨_, by rw [result, herror], ?_⟩
  rw [hspellings, List.map_append]
  rfl

/-- A superscript stays in its name and a number stays apart from the word behind it. The blank line
is not written again. -/
theorem ofText_respaced_words :
    (ofText "x²=12ab\n \nprint").result =
        .ok [⟨.name, "x²", ⟨1, 1⟩⟩, ⟨.assign, "=", ⟨1, 3⟩⟩, ⟨.unsignedInt, "12", ⟨1, 4⟩⟩,
          ⟨.name, "ab", ⟨1, 6⟩⟩, ⟨.newline, "\n", ⟨1, 8⟩⟩, ⟨.print, "print", ⟨3, 1⟩⟩,
          .endOfFile ⟨3, 1⟩] ∧
      ∃ us, (ofText "x² = 12 ab \nprint ").result = .ok us ∧
        us.map Token.spelling = [(.name, "x²"), (.assign, "="), (.unsignedInt, "12"),
          (.name, "ab"), (.newline, "\n"), (.print, "print"), (.endOfFile, "")] := by
  have hresult : (ofText "x²=12ab\n \nprint").result =
      .ok [⟨.name, "x²", ⟨1, 1⟩⟩, ⟨.assign, "=", ⟨1, 3⟩⟩, ⟨.unsignedInt, "12", ⟨1, 4⟩⟩,
        ⟨.name, "ab", ⟨1, 6⟩⟩, ⟨.newline, "\n", ⟨1, 8⟩⟩, ⟨.print, "print", ⟨3, 1⟩⟩,
        .endOfFile ⟨3, 1⟩] := by decide +kernel
  have hrespaced := ofText_respaced _ _ hresult
  exact ⟨hresult, hrespaced⟩

end Lexed

end FrontEnd

-- SUMMARY: Every problem of a source is reported at a piece of its text, where it stands.
import FrontEnd.Proofs.Check.Lines
import FrontEnd.Proofs.Program.Limits
import FrontEnd.Proofs.Token.Offending

/-!
# Problems at text

Some ways for a check to fail are there for token lists in general: the list may
be over too soon, or the token that does not fit may be the one that stands for
the end of the text. The tokens of a source never give rise to them, because of
what lines are made of. A line with tokens has one that is no newline and then a
newline, and what is wrong with a line is wrong with one of these. So what a
source is blamed for is a piece of its text, and the piece stands at the
position that is reported (`Location.StandsIn`).
-/

namespace FrontEnd

open Source

variable {limit : Nat} {source text : String} {e : SyntaxError}

-- ---------------------------------------------------------------------------
-- Errors in lines
-- ---------------------------------------------------------------------------

theorem SyntaxError.token?_at (e : SyntaxError) (t : Token) : (e.at t).token? = some t := by
  cases e <;> rfl

/-- The error is at a token in front of the end of the text, and where a line should have been the
last one, it has a token other than its newline. -/
structure SyntaxError.InLine (e : SyntaxError) : Prop where
  token : ∃ t, e.token? = some t ∧ t.kind ≠ .endOfFile
  notNewline : ∀ found, e = .unexpectedToken (.kind .endOfFile) found → found.kind ≠ .newline

/-- Only kinds matter for this. -/
theorem SyntaxError.InLine.relocate (f : Position → Position) (h : e.InLine) :
    (e.relocate f).InLine := by
  obtain ⟨⟨t, htoken, hkind⟩, hnotNewline⟩ := h
  cases e with
  | unexpectedToken x found =>
    cases htoken
    refine ⟨⟨_, rfl, hkind⟩, fun found' heq => ?_⟩
    cases heq
    exact hnotNewline t rfl
  | unexpectedEnd last =>
    cases htoken
    exact ⟨⟨_, rfl, hkind⟩, nofun⟩
  | nestingTooDeep limit token =>
    cases htoken
    exact ⟨⟨_, rfl, hkind⟩, nofun⟩

namespace Lexed

/-- What is wrong with a text that scans to its end is an error of the check of its tokens. -/
theorem check_of_problem? {x : Lexed} (herror : x.error = none) {p : Problem}
    (h : x.problem? limit = some p) :
    ∃ e, Program.check limit x.tokens = .error e ∧ p = .syntactic e := by
  rw [problem?_of_check herror] at h
  cases hcheck : Program.check limit x.tokens with
  | ok _ =>
    rw [hcheck] at h
    cases h
  | error e =>
    rw [hcheck] at h
    exact ⟨e, rfl, (Option.some.inj h).symm⟩

theorem inLine_of_ofLine (hlimit : 0 < limit) {x : Lexed} (hx : OfLine x)
    (h : x.problem? limit = some (.syntactic e)) : e.InLine := by
  cases hx with
  | blank finish => simp [problem?_blank hlimit] at h
  | invalid hline => cases h
  | @tokens ts newline finish hne _ hkinds hnewline =>
    have hline : Tokens.Line ts newline := ⟨hkinds, hnewline⟩
    have hended : Tokens.Ended [.endOfFile finish] := ⟨_, rfl, rfl⟩
    obtain ⟨_, hcheck, hsame⟩ := check_of_problem? rfl h
    cases hsame
    obtain ⟨e', t, ht, hat, hhead, hall⟩ | hall := Program.check_line hlimit hline
    · obtain rfl : e' = e := Except.error.inj ((hall _ hended).symm.trans hcheck)
      constructor
      case token =>
        refine ⟨t, hat ▸ SyntaxError.token?_at _ t, ?_⟩
        obtain ht | ht := List.mem_append.1 ht
        · exact (hkinds t ht).2
        · rw [List.mem_singleton.1 ht, hnewline]
          decide
      case notNewline =>
        intro found hfound
        obtain ⟨c, cs, rfl⟩ := List.exists_cons_of_ne_nil hne
        obtain rfl : c = found := Option.some.inj (hhead found hfound)
        exact (hkinds c (.head _)).1
    · cases (hcheck.symm.trans (hall _ hended)).trans (Program.check_endOfFile hlimit finish)

end Lexed

/-- An error of a source is one of its lines. -/
theorem Source.inLine_of_problem? (hlimit : 0 < limit)
    (h : problem? limit source = some (.syntactic e)) : e.InLine := by
  have hforemost := isForemostOf_lines hlimit source
  rw [h] at hforemost
  obtain ⟨i, q, hq, hsame⟩ := hforemost
  obtain ⟨line, hline, hproblem⟩ := List.mem_map.1 hq.mem
  obtain ⟨l, hl, rfl⟩ := exists_of_mem_lines hline
  cases q with
  | unreadable | lexical | mismatch => cases hsame
  | syntactic e' =>
    obtain rfl : e = e'.relocate (Position.down i) := Problem.syntactic.inj hsame
    exact (Lexed.inLine_of_ofLine hlimit (Lexed.ofLine hl (toList_completed_ofList hl)) hproblem)
      |>.relocate _

-- ---------------------------------------------------------------------------
-- Pieces of text
-- ---------------------------------------------------------------------------

/-- The lexeme is a piece of the text that is not empty, and the position is that of its first
character: lines and columns count from one. -/
def Location.StandsIn (l : Location) (text : String) : Prop :=
  l.lexeme ≠ "" ∧
    ∃ i, (text.toList.drop i).take l.lexeme.length = l.lexeme.toList ∧
      l.position.line.toNat = 1 + (text.toList.take i).count '\n' ∧
      l.position.column.toNat = 1 + (lastLine (text.toList.take i)).length

namespace Lexed

/-- The tokens in front of the end-of-file token stand in the text. -/
theorem standsIn_of_mem_tokens {t : Token} (hlength : text.length < UInt32.size - 1)
    (herror : (ofText text).error = none) (ht : t ∈ (ofText text).tokens)
    (hend : t.kind ≠ .endOfFile) : (Location.ofToken t).StandsIn text := by
  have hresult : (ofText text).result = .ok (ofText text).tokens := by rw [result, herror]
  obtain ⟨ps, finish, htokens, htiling, -, hposition, -⟩ := ofText_tiling text _ hlength hresult
  rw [htokens] at ht
  obtain ht | ht := List.mem_append.1 ht
  · obtain ⟨p, hp, rfl⟩ := List.mem_map.1 ht
    exact ⟨htiling.nonempty p hp, p.start, htiling.slice p hp, hposition p hp⟩
  · rw [List.mem_singleton.1 ht] at hend
    exact absurd rfl hend

/-- So does a character that starts no token. -/
theorem standsIn_of_error {e : InvalidCharacter} (hlength : text.length < UInt32.size - 1)
    (h : (ofText text).error = some e) : (Location.ofToken e.token).StandsIn text := by
  obtain ⟨hnone, -⟩ | ⟨i, c, ts, -, -, hc, hscan, -⟩ := ofText_cases text
  · cases hnone.symm.trans h
  · obtain rfl : (⟨c, .after (text.toList.take i)⟩ : InvalidCharacter) = e :=
      Option.some.inj ((congrArg error hscan).symm.trans h)
    have hshort : (text.toList.take i).length < UInt32.size - 1 := by
      rw [← String.length_toList] at hlength
      exact Nat.lt_of_le_of_lt (List.length_take_le' _ _) hlength
    obtain ⟨hi, hget⟩ := List.getElem?_eq_some_iff.1 hc
    have hlexeme : (Location.ofToken (InvalidCharacter.token
        ⟨c, .after (text.toList.take i)⟩)).lexeme = String.singleton c := rfl
    refine ⟨by simp [hlexeme], i, ?_, Position.toNat_after hshort⟩
    rw [hlexeme, String.length_singleton, String.toList_singleton, List.drop_eq_getElem_cons hi,
      hget]
    rfl

end Lexed

-- ---------------------------------------------------------------------------
-- Reports
-- ---------------------------------------------------------------------------

/-- What can be wrong with a source: a character that starts no token, or a token of its text that
is unexpected or at which the nesting is too deep. A statement is never what was expected, and the
end of the text never in the place of a newline. -/
inductive Problem.OfSource : Problem → Prop where
  | lexical (e : InvalidCharacter) : OfSource (.lexical e)
  | unexpectedToken {x : Expected} {found : Token} (hexpected : x ≠ .statement)
      (hkind : found.kind ≠ .endOfFile ∧ found.kind ≠ .error)
      (hnewline : x = .kind .endOfFile → found.kind ≠ .newline) :
      OfSource (.syntactic (.unexpectedToken x found))
  | nestingTooDeep {limit : Nat} {token : Token}
      (hkind : token.kind ≠ .endOfFile ∧ token.kind ≠ .error) :
      OfSource (.syntactic (.nestingTooDeep limit token))

theorem Problem.OfSource.toDiagnostic?_eq {p : Problem} (h : p.OfSource) :
    p.toDiagnostic? = some p.reported := by
  cases h <;> rfl

theorem length_completed_le (source : String) : (completed source).length ≤ source.length + 1 := by
  rw [← String.length_toList, ← String.length_toList, toList_completed]
  split <;> simp

theorem Source.ofSource_of_problem? (hlimit : 0 < limit)
    (hlength : source.length < UInt32.size - 2) {p : Problem} (h : problem? limit source = some p) :
    p.OfSource ∧ ∃ l, p.reported.location = some l ∧ l.StandsIn (completed source) := by
  have hcompleted : (completed source).length < UInt32.size - 1 := by
    have := length_completed_le source
    omega
  cases herror : (Lexed.ofText (completed source)).error with
  | some e =>
    obtain rfl : Problem.lexical e = p :=
      Option.some.inj ((Lexed.problem?_of_error herror).symm.trans h)
    exact ⟨.lexical e, _, rfl, Lexed.standsIn_of_error hcompleted herror⟩
  | none =>
    obtain ⟨e, he, rfl⟩ := Lexed.check_of_problem? herror h
    obtain ⟨⟨t, htoken, hend⟩, hnotNewline⟩ := inLine_of_problem? hlimit h
    have hmem : t ∈ (Lexed.ofText (completed source)).tokens :=
      List.mem_of_getElem? ((Program.getElem?_stop he).trans htoken)
    have hkind : t.kind ≠ .endOfFile ∧ t.kind ≠ .error :=
      ⟨hend, Lexed.kind_ne_error_of_mem_scan (Lexed.ofText_eq _ ▸ hmem)⟩
    refine ⟨?_, .ofToken t, congrArg (Option.map _) htoken,
      Lexed.standsIn_of_mem_tokens hcompleted herror hmem hend⟩
    cases e with
    | unexpectedToken x found =>
      cases htoken
      refine .unexpectedToken ?_ hkind ?_
      · rintro rfl
        exact Program.check_ne_expecting_statement _ _ _ he
      · rintro rfl
        exact hnotNewline t rfl
    | unexpectedEnd last =>
      exact absurd he (Program.check_ne_unexpectedEnd hlimit (Lexed.ended_ofText herror) last)
    | nestingTooDeep l token =>
      cases htoken
      exact .nestingTooDeep hkind

/-- A check that fails reports a problem, and whatever a check reports is a problem with a piece of
the text, by its own diagnostic: a piece that stands in the source at the line and the column that
are reported. -/
theorem checkSource_problem_stands (source : String) (o : Options) (terminal : Bool)
    (hlength : source.length < UInt32.size - 2) (hdepth : 1 ≤ o.maxDepth) :
    (∀ d d', checkSource source o terminal d = .ok .failure d' →
      ∃ p, Reports source o terminal p) ∧
    ∀ p, Reports source o terminal p → p.OfSource ∧ p.toDiagnostic? = some p.reported ∧
      ∃ l, p.reported.location = some l ∧ l.StandsIn (completed source) := by
  refine ⟨fun d d' h => ?_, fun p h => ?_⟩
  · cases hp : problem? o.maxDepth source with
    | some p => exact ⟨p, reports_of_problem? hp⟩
    | none =>
      rw [checkSource_eq_put, hp] at h
      simp only [bind, EStateM.bind] at h
      split at h <;> cases h
  · obtain ⟨hsource, hstands⟩ := ofSource_of_problem? hdepth hlength h.1
    exact ⟨hsource, hsource.toDiagnostic?_eq, hstands⟩

/-- A parenthesis that is missing on the second line, behind three spaces. -/
theorem checkSource_problem_stands_missing_parenthesis :
    "x = 1\n   print 2".length < UInt32.size - 2 ∧ 1 ≤ Program.defaultLimit ∧
      ∃ p, Reports "x = 1\n   print 2" { input := "main" } true p ∧ p.OfSource ∧
        ∃ l, p.reported.location = some l ∧ l = ⟨"2", ⟨2, 10⟩⟩ ∧
          l.StandsIn "x = 1\n   print 2\n" := by
  have hproblem : problem? Program.defaultLimit "x = 1\n   print 2" =
      some (.syntactic (.unexpectedToken (.kind .leftParen) ⟨.unsignedInt, "2", ⟨2, 10⟩⟩)) := by
    decide +kernel
  have hreports : Reports "x = 1\n   print 2" { input := "main" } true _ :=
    reports_of_problem? hproblem
  obtain ⟨hsource, -, l, hl, hstands⟩ := (checkSource_problem_stands "x = 1\n   print 2"
    { input := "main" } true (by decide) (by decide)).2 _ hreports
  exact ⟨by decide, by decide, _, hreports, hsource, l, hl, (Option.some.inj hl).symm, hstands⟩

end FrontEnd

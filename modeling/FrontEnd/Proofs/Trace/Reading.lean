-- SUMMARY: A trace table can be read back, so it determines the tokens.
import FrontEnd.Proofs.Output.Unfailing
import FrontEnd.Proofs.Text.Visible
import FrontEnd.Proofs.Token.Respacing
import Mathlib.Data.List.DropRight

/-!
# Reading the trace table

A row has columns of fixed width, so it can be cut where they end, as long as no
cell is wider than its column. Lines below 10⁷ and columns below 10⁵ are not, and
no name of a kind is. The lexeme stands last and may be of any length.

A cell is taken back by removing the spaces behind it, and a lexeme by reading
`\n` as a newline. Neither loses anything, because of how tokens are spelled:
white space and control characters are in no lexeme, but for the one newline of a
newline token, and neither is a backslash. Of texts in general none of this is
true.
-/

namespace FrontEnd

open Text Unicode

-- ---------------------------------------------------------------------------
-- The characters of lexemes
-- ---------------------------------------------------------------------------

namespace Unicode

theorem isControl_eq_false_of_isAlphabetic {c : Char} (h : isAlphabetic c = true) :
    isControl c = false :=
  CodeRanges.contains_eq_false (by decide +kernel) h

theorem isControl_eq_false_of_isNumeric {c : Char} (h : isNumeric c = true) :
    isControl c = false :=
  CodeRanges.contains_eq_false (by decide +kernel) h

end Unicode

/-- The character is shown as it is, and is no space. -/
structure Inked (c : Char) : Prop where
  isControl : isControl c = false
  ne_space : c ≠ ' '
  ne_backslash : c ≠ '\\'

theorem inked_of_isWordPart {c : Char} (h : isWordPart c = true) : Inked c where
  isControl := by
    simp only [isWordPart, isAlphanumeric, Bool.or_eq_true, decide_eq_true_eq] at h
    rcases h with (h | h) | rfl
    · exact isControl_eq_false_of_isAlphabetic h
    · exact isControl_eq_false_of_isNumeric h
    · decide
  ne_space := by
    rintro rfl
    cases isWhiteSpace_eq_false_of_isWordPart h
  ne_backslash := by
    have hbackslash : isWordPart '\\' = false := by decide +kernel
    rintro rfl
    cases hbackslash.symm.trans h

theorem inked_of_mem_symbols {c : Char} {k : Kind} (h : (c, k) ∈ Kind.symbols) (hc : c ≠ '\n') :
    Inked c := by
  have hall : ∀ x ∈ Kind.symbols, x.1 ≠ '\n' →
      isControl x.1 = false ∧ x.1 ≠ ' ' ∧ x.1 ≠ '\\' := by
    decide
  obtain ⟨hcontrol, hspace, hbackslash⟩ := hall _ h hc
  exact ⟨hcontrol, hspace, hbackslash⟩

theorem Spelling.inked_of_of? {σ : Spelling} {c : Char} (h : of? c = some σ) (hc : c ≠ '\n') :
    Inked c := by
  obtain ⟨hdigit, -⟩ | ⟨hword, -⟩ | ⟨k, hk, -⟩ := of?_cases h
  · exact inked_of_isWordPart (isWordPart_of_isDigit hdigit)
  · exact inked_of_isWordPart (isWordPart_of_isWordStart hword)
  · exact inked_of_mem_symbols (Kind.mem_symbols hk) hc

/-- All that is in the lexeme is shown as it is, or is a newline. -/
def Token.Legible (t : Token) : Prop :=
  ∀ c ∈ t.lexeme.toList, c = '\n' ∨ Inked c

theorem Token.Spelled.legible {t : Token} {next : Option Char} (h : t.Spelled next) :
    t.Legible := by
  obtain ⟨σ, p, c, w, hσ, hw, -, rfl⟩ := h
  intro d hd
  rw [Spelling.lexeme_token, String.toList_ofList] at hd
  obtain rfl | hd := List.mem_cons.1 hd
  · exact or_iff_not_imp_left.2 (Spelling.inked_of_of? hσ)
  · exact .inr (inked_of_isWordPart (Spelling.isWordPart_of_continues hσ (hw d hd)))

theorem Lexed.legible_of_result {text : String} {ts : Tokens} (h : (ofText text).result = .ok ts)
    {t : Token} (ht : t ∈ ts) : t.Legible := by
  by_cases hend : t.kind = .endOfFile
  · obtain ⟨us, hus, rfl⟩ := exists_of_result_eq_ok h
    obtain ht | ht := List.mem_append.1 ht
    · exact absurd hend (hus t ht)
    · obtain rfl := List.mem_singleton.1 ht
      exact nofun
  · obtain ⟨-, rfl⟩ := result_eq_ok h
    rw [ofText_eq] at ht
    exact (spelled_of_mem_scan ht hend).legible

namespace Trace

-- ---------------------------------------------------------------------------
-- Cells
-- ---------------------------------------------------------------------------

/-- A cell without the spaces behind it. -/
def trimmed (cell : List Char) : List Char :=
  cell.rdropWhile (· = ' ')

theorem trimmed_append_replicate (cs : List Char) (n : Nat) :
    trimmed (cs ++ List.replicate n ' ') = trimmed cs := by
  induction n with
  | zero => rw [List.replicate_zero, List.append_nil]
  | succ n ih =>
    rw [List.replicate_succ', ← List.append_assoc, trimmed,
      List.rdropWhile_concat_pos _ _ _ (by simp)]
    exact ih

theorem trimmed_padRight {text : String} (h : ∀ c ∈ text.toList, c ≠ ' ') (width : Nat) :
    trimmed (padRight width text).toList = text.toList := by
  rw [toList_padRight, trimmed_append_replicate]
  refine List.rdropWhile_eq_self_iff.2 fun hne => ?_
  simpa using h _ (List.getLast_mem hne)

theorem length_toList_padRight {text : String} {width : Nat} (h : text.length ≤ width) :
    (padRight width text).toList.length = width := by
  rw [String.length_toList, length_padRight, Nat.max_eq_left h]

/-- The characters with each `\n` read as a newline. -/
def unescaped : List Char → List Char
  | '\\' :: 'n' :: cs => '\n' :: unescaped cs
  | c :: cs => c :: unescaped cs
  | [] => []

theorem unescaped_cons {c : Char} (hc : c ≠ '\\') (cs : List Char) :
    unescaped (c :: cs) = c :: unescaped cs := by
  rw [unescaped]
  exact fun _ h => absurd h hc

theorem unescaped_flatMap_escapeChar {cs : List Char} (h : ∀ c ∈ cs, c = '\n' ∨ Inked c) :
    unescaped (cs.flatMap escapeChar) = cs := by
  induction cs with
  | nil => rfl
  | cons c cs ih =>
    obtain ⟨hc, hcs⟩ := List.forall_mem_cons.1 h
    rw [List.flatMap_cons]
    obtain rfl | hc := hc
    · exact congrArg ('\n' :: ·) (ih hcs)
    · rw [escapeChar_of_not_isControl hc.isControl, List.singleton_append,
        unescaped_cons hc.ne_backslash, ih hcs]

theorem ne_space_of_mem_escape {t : Token} (h : t.Legible) :
    ∀ c ∈ (escape t.lexeme).toList, c ≠ ' ' := by
  intro d hd
  rw [toList_escape] at hd
  obtain ⟨c, hc, hd⟩ := List.mem_flatMap.1 hd
  obtain rfl | hc := h c hc
  · have hnewline : escapeChar '\n' = ['\\', 'n'] := rfl
    rintro rfl
    simp [hnewline] at hd
  · rw [escapeChar_of_not_isControl hc.isControl] at hd
    rw [List.mem_singleton.1 hd]
    exact hc.ne_space

-- ---------------------------------------------------------------------------
-- Rows
-- ---------------------------------------------------------------------------

/-- The number in a cell, where there is nothing but digits. -/
def readNumber (cell : List Char) : Option Nat :=
  let digits := trimmed cell
  if digits ≠ [] ∧ digits.all Char.isDigit then some (Nat.ofDigitChars 10 digits 0) else none

def readKind (cell : List Char) : Option Kind :=
  Kind.all.find? (·.displayName == String.ofList (trimmed cell))

def readLexeme (cell : List Char) : String :=
  .ofList (unescaped (trimmed cell))

/-- The token of a row with 7 characters for the line, 5 for the column, 15 for the kind, and the
rest for the lexeme. -/
def readRow (cs : List Char) : Option Token := do
  let line ← readNumber (cs.take 7)
  let column ← readNumber ((cs.drop 7).take 5)
  let kind ← readKind ((cs.drop 12).take 15)
  return ⟨kind, readLexeme (cs.drop 27), ⟨.ofNat line, .ofNat column⟩⟩

theorem readNumber_padRight (n width : Nat) :
    readNumber (padRight width n.repr).toList = some n := by
  have hdigits : ∀ c ∈ n.repr.toList, c.isDigit = true := fun c hc =>
    Nat.isDigit_of_mem_toDigits (by decide) (by decide) (Nat.toList_repr ▸ hc)
  have hspace : ∀ c ∈ n.repr.toList, c ≠ ' ' := by
    rintro c hc rfl
    cases hdigits _ hc
  have hne : n.repr.toList ≠ [] := by
    rw [Nat.toList_repr]
    exact Nat.toDigits_ne_nil
  rw [readNumber, trimmed_padRight hspace, if_pos ⟨hne, List.all_eq_true.2 hdigits⟩,
    Nat.toList_repr, Nat.ofDigitChars_toDigits (by decide) (by decide)]

theorem readKind_padRight (k : Kind) : readKind (padRight 15 k.displayName).toList = some k := by
  cases k <;> rfl

theorem length_displayName_le (k : Kind) : k.displayName.length ≤ 15 := by
  cases k <;> decide

theorem readLexeme_padRight {t : Token} (h : t.Legible) (width : Nat) :
    readLexeme (padRight width (escape t.lexeme)).toList = t.lexeme := by
  rw [readLexeme, trimmed_padRight (ne_space_of_mem_escape h), toList_escape,
    unescaped_flatMap_escapeChar h, String.ofList_toList]

/-- A row is cut where its first three cells end. -/
theorem readRow_cells {line column kind lexeme : List Char} (hline : line.length = 7)
    (hcolumn : column.length = 5) (hkind : kind.length = 15) :
    readRow (line ++ column ++ kind ++ lexeme) = (do
      let line ← readNumber line
      let column ← readNumber column
      let kind ← readKind kind
      return ⟨kind, readLexeme lexeme, ⟨.ofNat line, .ofNat column⟩⟩) := by
  have hdrop : (line ++ column ++ kind ++ lexeme).drop 12 = kind ++ lexeme := by
    rw [List.append_assoc]
    exact List.drop_left' (by rw [List.length_append, hline, hcolumn])
  have hlexeme : (line ++ column ++ kind ++ lexeme).drop 27 = lexeme :=
    List.drop_left' (by simp only [List.length_append, hline, hcolumn, hkind])
  rw [readRow, hdrop, hlexeme, List.append_assoc, List.append_assoc, List.take_left' hline,
    List.drop_left' hline, List.take_left' hcolumn, List.take_left' hkind]

/-- A row is wide enough for the token, and the lexeme can be read. -/
theorem readRow_row {t : Token} (hline : t.position.line.toNat < 10000000)
    (hcolumn : t.position.column.toNat < 100000) (h : t.Legible) :
    readRow (row t).toList = some t := by
  have hline : t.position.line.toNat.repr.length ≤ 7 := (Nat.length_repr_le_iff (by decide)).2 hline
  have hcolumn : t.position.column.toNat.repr.length ≤ 5 :=
    (Nat.length_repr_le_iff (by decide)).2 hcolumn
  have hkind := length_displayName_le t.kind
  rw [row, String.toList_append, String.toList_append, String.toList_append]
  refine (readRow_cells (length_toList_padRight hline) (length_toList_padRight hcolumn)
    (length_toList_padRight hkind)).trans ?_
  simp only [readNumber_padRight, readKind_padRight, readLexeme_padRight h, Option.bind_eq_bind,
    Option.bind_some, UInt32.ofNat_toNat]
  rfl

theorem newline_not_mem_of_visible {s : String} (h : Visible s) : '\n' ∉ s.toList :=
  h.not_mem (by decide)

theorem splitOn_rows (ts : Tokens) :
    (String.join (ts.map fun t => row t ++ "\n")).toList.splitOn '\n' =
      (ts.map fun t => (row t).toList) ++ [[]] := by
  induction ts with
  | nil => rfl
  | cons t ts ih =>
    have hrow : (row t ++ "\n" ++ String.join (ts.map fun t => row t ++ "\n")).toList =
        (row t).toList ++ '\n' :: (String.join (ts.map fun t => row t ++ "\n")).toList := by
      simp
    rw [List.map_cons, String.join_cons, hrow,
      List.splitOn_append_cons_self_of_not_mem (newline_not_mem_of_visible (visible_row t)), ih]
    rfl

/-- The rows are the lines of the table below the header and a blank line. -/
theorem splitOn_text (ts : Tokens) : (text ts).toList.splitOn '\n' =
    header.toList :: [] :: (ts.map fun t => (row t).toList) ++ [[]] := by
  have htext : (text ts).toList = header.toList ++ '\n' :: ([] ++ '\n' ::
      (String.join (ts.map fun t => row t ++ "\n")).toList) := by
    simp [text]
  have hheader : Visible header := by decide
  rw [htext, List.splitOn_append_cons_self_of_not_mem (newline_not_mem_of_visible hheader),
    List.splitOn_append_cons_self_of_not_mem List.not_mem_nil, splitOn_rows]
  rfl

end Trace

-- ---------------------------------------------------------------------------
-- Traces of checks
-- ---------------------------------------------------------------------------

/-- The text is the trace of a check: where no write fails, turning the trace on puts it in front of
all that is written without it. -/
def Traces (source : String) (o : Options) (terminal : Bool) (trace : String) : Prop :=
  ∀ d : Device, d.Endless → ∃ exit e e' rest,
    checkSource source { o with trace := false } terminal d = .ok exit e ∧
    checkSource source { o with trace := true } terminal d = .ok exit e' ∧
    e.contents = d.contents ++ rest ∧ e'.contents = d.contents ++ trace.toUTF8 ++ rest

variable {source trace : String} {o : Options} {terminal : Bool} {d e : Device} {exit : Exit}

theorem Source.checkText_untraced : checkText source { o with trace := false } terminal =
    Problem.closingText (problem? o.maxDepth source) o terminal :=
  String.empty_append

theorem Source.checkText_traced : checkText source { o with trace := true } terminal =
    Trace.text (Lexed.ofText (completed source)).tokens ++
      Problem.closingText (problem? o.maxDepth source) o terminal :=
  rfl

theorem contents_of_checkSource (hd : d.Endless)
    (h : checkSource source o terminal d = .ok exit e) :
    e.contents = d.contents ++ (Source.checkText source o terminal).toUTF8 := by
  rw [checkSource_eq_put, Write.put_return_of_endless _ _ hd] at h
  obtain ⟨-, rfl⟩ := EStateM.Result.ok.inj h
  rfl

/-- The trace of a check is the table of the tokens. -/
theorem traces_iff : Traces source o terminal trace ↔
    trace = Trace.text (Lexed.ofText (Source.completed source)).tokens := by
  constructor
  · intro h
    have hendless : Device.Endless {} := rfl
    obtain ⟨exit, e, e', rest, he, he', hrest, htrace⟩ := h {} hendless
    have huntraced := contents_of_checkSource hendless he
    have htraced := contents_of_checkSource hendless he'
    rw [hrest, Source.checkText_untraced, ByteArray.append_right_inj] at huntraced
    rw [htrace, Source.checkText_traced, huntraced, ByteArray.append_assoc,
      ByteArray.append_right_inj, String.toUTF8_eq_toByteArray, String.toUTF8_eq_toByteArray,
      String.toUTF8_eq_toByteArray, String.toByteArray_append, ByteArray.append_left_inj] at htraced
    exact String.toByteArray_inj.1 htraced
  · rintro rfl d hd
    simp only [checkSource_eq_put, Write.put_return_of_endless _ _ hd]
    refine ⟨_, _, _, _, rfl, rfl, rfl, ?_⟩
    rw [Source.checkText_untraced, Source.checkText_traced, ByteArray.append_assoc,
      String.toUTF8_eq_toByteArray, String.toByteArray_append]
    rfl

/-- Scanning the completed source gives these tokens, on lines and at columns that the table has
room for. -/
structure Tabulates (source : String) (ts : Tokens) : Prop where
  result : (Lexed.ofText (Source.completed source)).result = .ok ts
  line : ∀ t ∈ ts, t.position.line.toNat < 10000000
  column : ∀ t ∈ ts, t.position.column.toNat < 100000

namespace Tabulates

variable {ts : Tokens}

theorem traces_iff (h : Tabulates source ts) :
    Traces source o terminal trace ↔ trace = Trace.text ts := by
  rw [FrontEnd.traces_iff, (Lexed.result_eq_ok h.result).2]

theorem readRow_rows (h : Tabulates source ts) :
    (ts.map fun t => (Trace.row t).toList).map Trace.readRow = ts.map some := by
  rw [List.map_map]
  exact List.map_congr_left fun t ht =>
    Trace.readRow_row (h.line t ht) (h.column t ht) (Lexed.legible_of_result h.result ht)

end Tabulates

/-- The trace of a source that scans is the header, a blank line and a row for each token in order,
and the rows can be read back, provided that the table has room for the lines and columns. So
sources with different tokens have different traces. -/
theorem trace_readable (source : String) (ts : Tokens) (o : Options) (terminal : Bool)
    (h : Tabulates source ts) :
    ∃ (trace : String) (rows : List (List Char)),
      (∀ text, Traces source o terminal text ↔ text = trace) ∧
      trace.toList.splitOn '\n' = Trace.header.toList :: [] :: rows ++ [[]] ∧
      rows.map Trace.readRow = ts.map some ∧
      ∀ (source' : String) (ts' : Tokens) (o' : Options) (terminal' : Bool) (trace' : String),
        Tabulates source' ts' → Traces source' o' terminal' trace' → ts ≠ ts' →
          trace ≠ trace' := by
  refine ⟨_, _, fun text => h.traces_iff, Trace.splitOn_text ts, h.readRow_rows, ?_⟩
  rintro source' ts' o' terminal' trace' h' htrace' hne rfl
  -- The two tables are the same text, so they have the same lines, and the same rows among them.
  have hlines := congrArg (fun s : String => s.toList.splitOn '\n') (h'.traces_iff.1 htrace')
  simp only [Trace.splitOn_text, List.cons_append, List.cons.injEq, true_and,
    List.append_cancel_right_eq] at hlines
  have htokens := h.readRow_rows
  rw [hlines, h'.readRow_rows] at htokens
  exact hne ((List.map_inj_right fun _ _ => Option.some.inj).1 htokens).symm

/-- A name with a letter that is not ASCII, and the newline that completes the line. With one more
space the tokens have other columns. -/
theorem trace_readable_columns :
    let ts : Tokens := [⟨.name, "é1", ⟨1, 1⟩⟩, ⟨.assign, "=", ⟨1, 4⟩⟩, ⟨.unsignedInt, "20", ⟨1, 6⟩⟩,
      ⟨.newline, "\n", ⟨1, 8⟩⟩, .endOfFile ⟨2, 1⟩]
    let ts' : Tokens := [⟨.name, "é1", ⟨1, 1⟩⟩, ⟨.assign, "=", ⟨1, 4⟩⟩,
      ⟨.unsignedInt, "20", ⟨1, 7⟩⟩, ⟨.newline, "\n", ⟨1, 9⟩⟩, .endOfFile ⟨2, 1⟩]
    Tabulates "é1 = 20" ts ∧ Tabulates "é1 =  20" ts' ∧
      ∃ (trace : String) (rows : List (List Char)),
        (∀ text, Traces "é1 = 20" { input := "main" } true text ↔ text = trace) ∧
        trace.toList.splitOn '\n' = Trace.header.toList :: [] :: rows ++ [[]] ∧
        rows.map Trace.readRow = ts.map some ∧
        ∀ trace', Traces "é1 =  20" { input := "main" } true trace' → trace ≠ trace' := by
  intro ts ts'
  have h : Tabulates "é1 = 20" ts := ⟨by decide +kernel, by decide, by decide⟩
  have h' : Tabulates "é1 =  20" ts' := ⟨by decide +kernel, by decide, by decide⟩
  obtain ⟨trace, rows, htrace, hlines, hrows, hother⟩ :=
    trace_readable "é1 = 20" ts { input := "main" } true h
  exact ⟨h, h', trace, rows, htrace, hlines, hrows, fun trace' htrace' =>
    hother "é1 =  20" ts' { input := "main" } true trace' h' htrace' (by decide)⟩

end FrontEnd

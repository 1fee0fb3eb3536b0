-- SUMMARY: No source text and no input has a say in the control characters of the output.
import FrontEnd.Proofs.CharGrammar.Recognition
import FrontEnd.Proofs.Output.Unfailing
import FrontEnd.Proofs.Text.Visible
import FrontEnd.Run

/-!
# Harmless output

A terminal obeys control characters. The output has some of its own, the newline
behind each line and, with colors, the escape character in front of each of the
four sequences that the colors are made of. Whatever else is written comes from
the source: lexemes, and characters named in messages. On each of the ways to the
output it is escaped or quoted, and visible from there on.

So the control characters of the output can be told by their kind and counted
without a look at the texts of the source (`Harmless`). Both go piece by piece.
-/

namespace FrontEnd

open Text Unicode

-- ---------------------------------------------------------------------------
-- Texts with their control characters counted
-- ---------------------------------------------------------------------------

namespace Terminal

/-- The sequences that the colors are made of. -/
def sequences : List String :=
  [Style.error.sequence, Style.note.sequence, Style.bold.sequence, reset]

/-- Every control character is a newline or, where there are colors, starts one of their
sequences. -/
def Tame (colors : Bool) (text : String) : Prop :=
  ∀ before c after, text.toList = before ++ c :: after → isControl c = true →
    c = '\n' ∨ colors = true ∧ ∃ s ∈ sequences, s.toList <+: c :: after

theorem Tame.append {colors : Bool} {s t : String} (hs : Tame colors s) (ht : Tame colors t) :
    Tame colors (s ++ t) := by
  intro before c after h hc
  rw [String.toList_append] at h
  obtain ⟨_, -, h⟩ | ⟨cs, h, hcs⟩ := List.append_eq_append_iff.1 h
  · exact ht _ c after h hc
  · cases cs with
    | nil => exact ht [] c after hcs.symm hc
    | cons d cs =>
      obtain ⟨rfl, hafter⟩ := List.cons.inj hcs
      rw [hafter]
      obtain hnewline | ⟨hcolors, w, hw, hbegins⟩ := hs before c cs h hc
      · exact .inl hnewline
      · exact .inr ⟨hcolors, w, hw, hbegins.trans (List.prefix_append (c :: cs) _)⟩

/-- Behind its first character a sequence is visible. -/
theorem exists_of_mem_sequences {s : String} (h : s ∈ sequences) :
    ∃ w : String, s.toList = '\x1b' :: w.toList ∧ Visible w := by
  simp only [sequences, List.mem_cons, List.not_mem_nil, or_false] at h
  rcases h with rfl | rfl | rfl | rfl
  · exact ⟨"[1;31m", rfl, by decide⟩
  · exact ⟨"[1;36m", rfl, by decide⟩
  · exact ⟨"[1m", rfl, by decide⟩
  · exact ⟨"[0m", rfl, by decide⟩

theorem tame_of_mem_sequences {s : String} (h : s ∈ sequences) : Tame true s := by
  intro before c after hs hc
  obtain ⟨w, hw, hvisible⟩ := exists_of_mem_sequences h
  cases before with
  | nil => exact .inr ⟨rfl, s, h, hs ▸ List.prefix_rfl⟩
  | cons d before =>
    have hmem : c ∈ w.toList := by
      rw [(List.cons.inj (hw.symm.trans hs)).2]
      simp
    exact absurd hmem (hvisible.not_mem hc)

theorem sequence_mem_sequences (style : Style) : style.sequence ∈ sequences := by
  cases style <;> simp [sequences]

end Terminal

open Terminal

/-- The control characters of a text: that many newlines and, with colors, that many escape
characters, each of them in front of a sequence of the colors. -/
structure Harmless (colors : Bool) (newlines escapes : Nat) (text : String) : Prop where
  tame : Tame colors text
  newlines : text.toList.count '\n' = newlines
  escapes : text.toList.count '\x1b' = if colors then escapes else 0

namespace Harmless

variable {colors : Bool} {m m' n n' : Nat} {s t : String}

theorem append (hs : Harmless colors m n s) (ht : Harmless colors m' n' t) :
    Harmless colors (m + m') (n + n') (s ++ t) where
  tame := hs.tame.append ht.tame
  newlines := by rw [String.toList_append, List.count_append, hs.newlines, ht.newlines]
  escapes := by
    rw [String.toList_append, List.count_append, hs.escapes, ht.escapes]
    cases colors <;> rfl

theorem lined (h : Lined s) (hm : s.toList.count '\n' = m) : Harmless colors m 0 s where
  tame _ c _ hs hc := .inl (h c (by simp [hs]) hc)
  newlines := hm
  escapes := by
    rw [ite_self, List.count_eq_zero]
    exact fun hmem => absurd (h _ hmem (by decide)) (by decide)

theorem visible (h : Visible s) : Harmless colors 0 0 s :=
  lined h.lined (List.count_eq_zero.2 (h.not_mem (by decide)))

theorem lineEnd : Harmless colors 1 0 "\n" :=
  lined (by decide) (by decide)

/-- A line with the newline behind it. -/
theorem line (h : Visible s) : Harmless colors 1 0 (s ++ "\n") :=
  (visible h).append lineEnd

/-- A sequence has one escape character. -/
theorem sequence (h : s ∈ sequences) : Harmless true 0 1 s := by
  obtain ⟨w, hw, hvisible⟩ := exists_of_mem_sequences h
  have hcount {c : Char} (hc : isControl c = true) : w.toList.count c = 0 :=
    List.count_eq_zero.2 (hvisible.not_mem hc)
  constructor
  case tame => exact tame_of_mem_sequences h
  case newlines =>
    rw [hw, List.count_cons, hcount (by decide)]
    rfl
  case escapes =>
    rw [hw, List.count_cons, hcount (by decide)]
    rfl

/-- Without colors there are no escape characters, however many there would be. -/
theorem uncolored (h : Harmless false m n s) : Harmless false m n' s :=
  { h with escapes := h.escapes }

/-- There are two sequences around a painted text. -/
theorem painted (style : Style) (h : Visible s) : Harmless colors 0 2 (painted colors style s) := by
  cases colors with
  | false => exact (visible h).uncolored
  | true =>
    have hreset : reset ∈ sequences := by simp [sequences]
    exact ((sequence (sequence_mem_sequences style)).append (visible h)).append (sequence hreset)

theorem join {α : Type} {f : α → String} {as : List α} (h : ∀ a ∈ as, Harmless colors m n (f a)) :
    Harmless colors (m * as.length) (n * as.length) (String.join (as.map f)) := by
  induction as with
  | nil => exact visible .empty
  | cons a as ih =>
    obtain ⟨ha, has⟩ := List.forall_mem_cons.1 h
    rw [List.map_cons, String.join_cons, List.length_cons, Nat.mul_succ, Nat.mul_succ,
      Nat.add_comm _ m, Nat.add_comm _ n]
    exact ha.append (ih has)

/-- The counts in another form. -/
theorem recount (h : Harmless colors m n s) (hm : m = m') (hn : n = n') :
    Harmless colors m' n' s :=
  hm ▸ hn ▸ h

end Harmless

-- ---------------------------------------------------------------------------
-- Traces
-- ---------------------------------------------------------------------------

/-- There is a line for each token, and two for the header. -/
theorem Trace.harmless_text (colors : Bool) (ts : Tokens) :
    Harmless colors (ts.length + 2) 0 (text ts) := by
  have hheader : Harmless colors 2 0 (header ++ "\n" ++ "\n") := .lined (by decide) (by decide)
  have hrows : ∀ t ∈ ts, Harmless colors 1 0 (row t ++ "\n") := fun t _ => .line (visible_row t)
  exact (hheader.append (.join hrows)).recount (by omega) (by simp)

-- ---------------------------------------------------------------------------
-- Reports
-- ---------------------------------------------------------------------------

namespace Diagnostic

/-- Whatever the lexeme is, the message and the notes are visible. -/
def Plain (d : Diagnostic) : Prop :=
  ∀ s ∈ d.message :: d.notes, Visible s

/-- How many lines the report has. -/
def lineCount (d : Diagnostic) : ReportFormat → Nat
  | .human => d.location.toList.length + 2 + d.notes.length
  | .json => 10

/-- How many escape characters there are in the report with colors. -/
def escapeCount (d : Diagnostic) : Nat :=
  2 * (d.location.toList.length + 2 + d.notes.length)

end Diagnostic

namespace Terminal

variable {colors : Bool}

theorem harmless_locationText (l : Location) : Harmless colors 1 2 (locationText colors l) := by
  have hopen : Harmless colors 0 0 "Error on '" := .visible (by decide)
  have hlexeme : Harmless colors 0 2 (painted colors .bold (escape l.lexeme)) :=
    .painted .bold (visible_escape l.lexeme)
  have hposition : Visible ("' " ++ l.position.describe) :=
    .append (by decide) (visible_describe l.position)
  exact (hopen.append hlexeme).append (.line hposition)

theorem harmless_noteText {note : String} (h : Visible note) :
    Harmless colors 1 2 (noteText colors note) := by
  have hopen : Harmless colors 0 0 "  = " := .visible (by decide)
  have hlabel : Harmless colors 0 2 (painted colors .note "note") := .painted .note (by decide)
  have hnote : Visible (": " ++ note) := .append (by decide) h
  exact (hopen.append hlabel).append (.line hnote)

theorem harmless_text {d : Diagnostic} (h : d.Plain) :
    Harmless colors (d.location.toList.length + 1 + d.notes.length) d.escapeCount
      (text colors d) := by
  obtain ⟨hmessage, hnotes⟩ := List.forall_mem_cons.1 h
  have hlocation : Harmless colors d.location.toList.length (2 * d.location.toList.length)
      ((d.location.map (locationText colors)).getD "") := by
    cases d.location with
    | none => exact .visible .empty
    | some l => exact harmless_locationText l
  have hlabel : Harmless colors 0 2 (painted colors .error "error") := .painted _ (by decide)
  have hcode : Visible ("[" ++ d.code.text ++ "]") :=
    .append (.append (by decide) (visible_codeText d.code)) (by decide)
  have hmessage : Visible (": " ++ d.message) := .append (by decide) hmessage
  have hnotes : ∀ note ∈ d.notes, Harmless colors 1 2 (noteText colors note) :=
    fun note hnote => harmless_noteText (hnotes note hnote)
  refine ((((hlocation.append hlabel).append (.painted .bold hcode)).append (.line hmessage)).append
    (.join hnotes)).recount ?_ ?_
  · omega
  · rw [Diagnostic.escapeCount]
    omega

end Terminal

namespace JsonArray

theorem visible_memberText (name : String) {value : String} (hname : Visible name)
    (hvalue : Visible value) : Visible (memberText name value) :=
  (((Visible.append (by decide) hname).append (by decide)).append hvalue)

theorem visible_located {text : Location → String} (h : ∀ l, Visible (text l))
    (location : Option Location) : Visible ((location.map text).getD "null") := by
  cases location with
  | none => exact (by decide : Visible "null")
  | some l => exact h l

theorem visible_notesText (notes : List String) : Visible (notesText notes) := by
  have hnotes : ∀ s ∈ notes.map jsonString, Visible s := by
    simpa using fun note _ => visible_jsonString note
  exact visible_memberText "notes" (by decide)
    ((Visible.append (by decide) (.intercalate (by decide) hnotes)).append (by decide))

variable {colors : Bool}

theorem harmless_comma : Harmless colors 1 0 ",\n" :=
  .lined (by decide) (by decide)

theorem harmless_locationText (location : Option Location) :
    Harmless colors 2 0 (locationText location) := by
  have hlexeme := visible_memberText "lexeme" (by decide)
    (visible_located (fun l => visible_jsonString l.lexeme) location)
  have hline := visible_memberText "line" (by decide)
    (visible_located (fun l => visible_repr l.position.line.toNat) location)
  have hcolumn := visible_memberText "column" (by decide)
    (visible_located (fun l => visible_repr l.position.column.toNat) location)
  exact ((((Harmless.visible hlexeme).append harmless_comma).append (.visible hline)).append
    harmless_comma).append (.visible hcolumn)

/-- Whatever the diagnostic says, its object has seven line breaks. -/
theorem harmless_elementText (d : Diagnostic) : Harmless colors 7 0 (elementText d) := by
  have hopen : Harmless colors 1 0 "  \x7b\n" := .lined (by decide) (by decide)
  have hcode : Visible ("\"" ++ d.code.text ++ "\"") :=
    .append (.append (by decide) (visible_codeText d.code)) (by decide)
  have hcode := visible_memberText "code" (by decide) hcode
  have hmessage := visible_memberText "message" (by decide) (visible_jsonString d.message)
  have hclose : Harmless colors 1 0 "\n  \x7d" := .lined (by decide) (by decide)
  have hmembers := ((((hopen.append (.visible hcode)).append harmless_comma).append
    (.visible hmessage)).append harmless_comma).append (harmless_locationText d.location)
  exact ((hmembers.append harmless_comma).append (.visible (visible_notesText d.notes))).append
    hclose

theorem harmless_elementsText (ds : List Diagnostic) :
    Harmless colors (8 * ds.length) 0 (elementsText false ds) := by
  induction ds with
  | nil => exact .visible .empty
  | cons d ds ih =>
    have hcomma : Harmless colors 1 0 (separator false) := harmless_comma
    exact ((hcomma.append (harmless_elementText d)).append ih).recount (by simp; omega) rfl

theorem harmless_arrayText (ds : List Diagnostic) :
    Harmless colors (8 * ds.length + 2) 0 (arrayText ds) := by
  cases ds with
  | nil => exact .lined (by decide) (by decide)
  | cons d ds =>
    have hopen : Harmless colors 1 0 "[\n" := .lined (by decide) (by decide)
    have hclose : Harmless colors 1 0 "\n]" := .lined (by decide) (by decide)
    have hfirst : Harmless colors _ 0 (elementsText true (d :: ds)) :=
      ((Harmless.visible .empty).append (harmless_elementText d)).append
        (harmless_elementsText ds)
    exact (((hopen.append hfirst).append hclose).append .lineEnd).recount
      (by simp; omega) rfl

end JsonArray

-- ---------------------------------------------------------------------------
-- Problems
-- ---------------------------------------------------------------------------

theorem Expected.visible_describe (e : Expected) : Visible e.describe := by
  cases e with
  | kind k => cases k <;> decide
  | statement | factor => decide

theorem InvalidCharacter.plain_toDiagnostic (e : InvalidCharacter) : e.toDiagnostic.Plain := by
  have hnote : Visible (quoteChar e.found ++ " does not start any token") :=
    (visible_quoteChar e.found).append (by decide)
  have hmessage : Visible "invalid token" := by decide
  exact List.forall_mem_cons.2 ⟨hmessage, List.forall_mem_singleton.2 hnote⟩

theorem SyntaxError.plain_toDiagnostic (e : SyntaxError) : e.toDiagnostic.Plain := by
  cases e with
  | unexpectedToken expected found =>
    have hmessage : Visible ("expecting " ++ expected.describe) :=
      .append (by decide) expected.visible_describe
    have hnote : Visible ("found " ++ found.kind.displayName) :=
      .append (by decide) (visible_displayName found.kind)
    exact List.forall_mem_cons.2 ⟨hmessage, List.forall_mem_singleton.2 hnote⟩
  | unexpectedEnd last =>
    have hmessage : Visible "unexpected end of file" := by decide
    have hnote : Visible "the token list ended without an end-of-file token" := by decide
    exact List.forall_mem_cons.2 ⟨hmessage, List.forall_mem_singleton.2 hnote⟩
  | nestingTooDeep limit token =>
    have hmessage : Visible ("nesting exceeds the limit of " ++ limit.repr ++ " levels") :=
      (Visible.append (by decide) (visible_repr limit)).append (by decide)
    exact List.forall_mem_singleton.2 hmessage

namespace CharGrammar

variable {g : CharGrammar} {w rest : List Char} {c : Char}

theorem mem_letters {v : List Char} (hv : v ∈ g.language) (hc : c ∈ v) :
    c ∈ ['a', 'b', 'c', 'd'] := by
  cases g with
  | abCd =>
    obtain ⟨n, rfl⟩ := hv
    simp only [List.mem_cons, List.mem_append, List.mem_replicate] at hc ⊢
    grind
  | anbC =>
    obtain rfl | ⟨n, rfl⟩ := hv
    · simp_all
    · simp only [List.mem_cons, List.mem_append, List.mem_replicate] at hc ⊢
      grind

theorem isControl_of_viable (h : g.Viable w) (hc : c ∈ w) : isControl c = false := by
  obtain ⟨v, hv, hbegins⟩ := h
  exact isControl_of_mem (by rfl) (mem_letters hv (hbegins.subset hc))

/-- A label names characters of the grammar and none of the input. -/
theorem Misses.plain_diagnosticAt {e : Mismatch} (h : g.Misses w rest e) (column : UInt32) :
    (e.diagnosticAt column).Plain := by
  obtain ⟨names, -, hnames, -⟩ := h
  have hname : ∀ s ∈ names.map Char.toString, Visible s := by
    intro s hs
    obtain ⟨c, hc, rfl⟩ := List.mem_map.1 hs
    intro d hd
    obtain rfl := List.mem_singleton.1 (by simpa using hd)
    exact isControl_of_viable (hnames d hc) (by simp)
  have hmessage : Visible ("expecting " ++ label names) :=
    .append (by decide) (.intercalate (by decide) hname)
  refine List.forall_mem_cons.2 ⟨hmessage, ?_⟩
  cases rest.head? with
  | none => exact List.forall_mem_singleton.2 (by decide)
  | some c => exact List.forall_mem_singleton.2 (.append (by decide) (visible_quoteChar c))

theorem plain_of_recognize {input : String} {e : Mismatch} (h : g.recognize input = .error e)
    (column : UInt32) : (e.diagnosticAt column).Plain := by
  obtain ⟨hok, -⟩ | ⟨w, found, rest, -, -, hfail⟩ | ⟨w, rest, e', -, hmisses, hfail⟩ :=
    recognize_cases g input
  · cases hok.symm.trans h
  · obtain rfl := Except.error.inj (hfail.symm.trans h)
    have hmessage : Visible "garbage following <S>-string" := by decide
    exact List.forall_mem_singleton.2 hmessage
  · obtain rfl := Except.error.inj (hfail.symm.trans h)
    exact hmisses.plain_diagnosticAt column

theorem plain_of_problem? {input : String} {p : Problem} (h : g.problem? input = some p) :
    p.reported.Plain := by
  unfold problem? at h
  cases hrecognize : g.recognize input with
  | ok _ => simp [hrecognize] at h
  | error e =>
    rw [hrecognize] at h
    obtain rfl := Option.some.inj h
    exact plain_of_recognize hrecognize _

end CharGrammar

theorem Lexed.plain_of_problem? {x : Lexed} {limit : Nat} {p : Problem}
    (h : x.problem? limit = some p) : p.reported.Plain := by
  unfold problem? at h
  split at h
  · next e _ =>
    obtain rfl := Option.some.inj h
    exact e.plain_toDiagnostic
  · split at h
    · cases h
    · next e _ =>
      obtain rfl := Option.some.inj h
      exact e.plain_toDiagnostic

-- ---------------------------------------------------------------------------
-- Whole outputs
-- ---------------------------------------------------------------------------

/-- Whether reports are in color. -/
def Options.colored (o : Options) (terminal : Bool) : Bool :=
  o.errorFormat = .human && o.color.enabled terminal

namespace Problem

/-- How many lines the report has, if there is one. -/
def lineCount (p : Option Problem) (o : Options) : Nat :=
  (p.map (·.reported.lineCount o.errorFormat)).getD 0

/-- How many escape characters there are in the report with colors, if there is one. -/
def escapeCount (p : Option Problem) : Nat :=
  (p.map (·.reported.escapeCount)).getD 0

theorem harmless_reportText {p : Problem} (h : p.reported.Plain) (o : Options)
    (terminal : Bool) :
    Harmless (o.colored terminal) (p.reported.lineCount o.errorFormat)
      p.reported.escapeCount (p.reportText o terminal) := by
  rw [reportText, Options.colored]
  cases o.errorFormat with
  | human =>
    have hreport : Harmless (o.color.enabled terminal) _ _ ("\n" ++ text _ p.reported) :=
      Harmless.lineEnd.append (harmless_text h)
    exact hreport.recount (by simp [Diagnostic.lineCount]; omega) (by simp)
  | json =>
    exact (JsonArray.harmless_arrayText [p.reported]).uncolored

theorem harmless_closingText {p : Option Problem} (h : ∀ q ∈ p, q.reported.Plain) (o : Options)
    (terminal : Bool) :
    Harmless (o.colored terminal) (lineCount p o) (escapeCount p) (closingText p o terminal) := by
  cases p with
  | none => exact .visible .empty
  | some p => exact harmless_reportText (h p rfl) o terminal

end Problem

/-- How many lines a check writes. -/
def Source.lineCount (source : String) (o : Options) : Nat :=
  (if o.trace then (Lexed.ofText (completed source)).tokens.length + 2 else 0) +
    Problem.lineCount (problem? o.maxDepth source) o

theorem Source.harmless_traceText (colors : Bool) (source : String) (o : Options) :
    Harmless colors (if o.trace then (Lexed.ofText (completed source)).tokens.length + 2 else 0) 0
      (traceText source o) := by
  unfold traceText
  cases o.trace with
  | true => exact Trace.harmless_text colors _
  | false => exact .visible .empty

theorem Source.harmless_checkText (source : String) (o : Options) (terminal : Bool) :
    Harmless (o.colored terminal) (lineCount source o)
      (Problem.escapeCount (problem? o.maxDepth source)) (checkText source o terminal) :=
  ((harmless_traceText _ source o).append (Problem.harmless_closingText
    (fun _ hp => Lexed.plain_of_problem? hp) o terminal)).recount rfl (Nat.zero_add _)

/-- On this device the action succeeds, and what it writes is harmless. -/
def WritesHarmless {α : Type} (w : Write α) (d : Device) (colors : Bool)
    (newlines escapes : Nat) : Prop :=
  ∃ a text, w d = .ok a { d with contents := d.contents ++ text.toUTF8 } ∧
    Harmless colors newlines escapes text

/-- Where no write fails, the control characters that are written when a source is checked are the
newlines of a number of lines and, where reports are in color, the escape characters in front of a
number of the sequences of the colors. The numbers are those of the tokens and of the parts of the
report. The same goes for the report on a string that a character grammar does not accept. For
programs any diagnostics at all are written without control characters but newlines, eight for each
diagnostic and two more. -/
theorem output_harmless (o : Options) (terminal : Bool) (d : Device) (hd : d.Endless) :
    (∀ source, WritesHarmless (checkSource source o terminal) d (o.colored terminal)
      (Source.lineCount source o) (Problem.escapeCount (Source.problem? o.maxDepth source))) ∧
    (∀ (g : CharGrammar) (input : String),
      WritesHarmless (conclude (g.problem? input) o terminal) d (o.colored terminal)
        (Problem.lineCount (g.problem? input) o) (Problem.escapeCount (g.problem? input))) ∧
    ∀ ds : List Diagnostic, WritesHarmless (JsonArray.write ds) d false (8 * ds.length + 2) 0 := by
  refine ⟨fun source => ?_, fun g input => ?_, fun ds => ?_⟩
  · rw [checkSource_eq_put]
    exact ⟨_, _, Write.put_return_of_endless _ _ hd, Source.harmless_checkText source o terminal⟩
  · rw [conclude_eq_put]
    exact ⟨_, _, Write.put_return_of_endless _ _ hd,
      Problem.harmless_closingText (fun _ hp => CharGrammar.plain_of_problem? hp) o terminal⟩
  · rw [JsonArray.write_eq_put]
    exact ⟨_, _, Write.put_of_endless _ hd, JsonArray.harmless_arrayText ds⟩

/-- A sequence in the source and a control character in the input: a line for the token in front of
the sequence and two for the header, then a report with four lines, and a report with four lines for
the input. In both reports four pieces are painted. -/
theorem output_harmless_sequence :
    Device.Endless {} ∧
      WritesHarmless (checkSource "x \x1b[0m" { input := "main" } true) {} true 7 8 ∧
      WritesHarmless (conclude (CharGrammar.abCd.problem? "ab\x7f") { input := "main" } true) {}
        true 4 8 := by
  have hendless : Device.Endless {} := rfl
  have hsource := (output_harmless { input := "main" } true {} hendless).1 "x \x1b[0m"
  have hinput := (output_harmless { input := "main" } true {} hendless).2.1 .abCd "ab\x7f"
  have hcounts : Source.lineCount "x \x1b[0m" { input := "main" } = 7 ∧
      Problem.escapeCount (Source.problem? ({ input := "main" } : Options).maxDepth "x \x1b[0m") =
        8 := by
    decide +kernel
  have hinputCounts :
      Problem.lineCount (CharGrammar.abCd.problem? "ab\x7f") { input := "main" } = 4 ∧
        Problem.escapeCount (CharGrammar.abCd.problem? "ab\x7f") = 8 := by
    decide +kernel
  rw [hcounts.1, hcounts.2] at hsource
  rw [hinputCounts.1, hinputCounts.2] at hinput
  exact ⟨hendless, hsource, hinput⟩

end FrontEnd

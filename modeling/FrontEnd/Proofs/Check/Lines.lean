-- SUMMARY: A source is checked line by line: what is wrong with it is what is wrong with one of its lines.
import FrontEnd.Proofs.Output.Unfailing
import FrontEnd.Proofs.Program.Lines
import FrontEnd.Proofs.Token.Lines

/-!
# Checking by lines

Each line of a source can be checked for itself. The source passes when all of
its lines do. When some do not, the source has the problem of one of them, at
the number of that line: of the first line with an invalid character when there
is one, because the whole source is scanned before any of it is parsed, and
otherwise of the first line that is rejected.

The proof takes one line off at a time (`problem?_newline`), for the problems of
the rest are those of a source of its own, one line further down.
-/

namespace FrontEnd

open Source

-- ---------------------------------------------------------------------------
-- Lines of a source
-- ---------------------------------------------------------------------------

namespace Source

/-- The lines of a source, without the newlines between them. -/
def lines (source : String) : List String :=
  (source.toList.splitOn '\n').map String.ofList

/-- A text as its lines: a last one, or one with a newline and the lines behind it. -/
inductive Lines : List Char → List (List Char) → Prop where
  | last {l : List Char} (hl : '\n' ∉ l) : Lines l [l]
  | line {l cs : List Char} {ls : List (List Char)} (hl : '\n' ∉ l) (h : Lines cs ls) :
      Lines (l ++ '\n' :: cs) (l :: ls)

theorem lines_splitOn (cs : List Char) : Lines cs (cs.splitOn '\n') := by
  induction hlength : cs.length using Nat.strongRecOn generalizing cs with
  | ind n ih =>
    by_cases hmem : '\n' ∈ cs
    · obtain ⟨l, rest, rfl, hl⟩ := List.eq_append_cons_of_mem hmem
      rw [List.splitOn_append_cons_self_of_not_mem hl]
      rw [List.length_append, List.length_cons] at hlength
      exact .line hl (ih _ (by omega) rest rfl)
    · rw [List.splitOn_eq_singleton hmem]
      exact .last hmem

namespace Lines

variable {cs l : List Char} {ls : List (List Char)}

theorem not_mem (h : Lines cs ls) (hl : l ∈ ls) : '\n' ∉ l := by
  induction h with
  | last hnot => exact List.mem_singleton.1 hl ▸ hnot
  | line hnot _ ih =>
    obtain rfl | hl := List.mem_cons.1 hl
    · exact hnot
    · exact ih hl

theorem length_le (h : Lines cs ls) : ls.length ≤ cs.length + 1 := by
  induction h with
  | last _ => simp
  | line _ _ ih =>
    simp only [List.length_cons, List.length_append]
    omega

end Lines

/-- A line is completed by a newline. -/
theorem toList_completed_of_not_mem {text : String} (h : '\n' ∉ text.toList) :
    (completed text).toList = text.toList ++ ['\n'] := by
  have hends : endsLine text = false := by
    refine Bool.eq_false_iff.2 fun hends => h ?_
    exact List.mem_of_getLast? (by simpa [endsLine] using hends)
  rw [toList_completed, hends]
  rfl

/-- Where there is text behind a newline, that text is completed. -/
theorem toList_completed_of_newline {text rest : String} {l : List Char}
    (htext : text.toList = l ++ '\n' :: rest.toList) (hne : rest.toList ≠ []) :
    (completed text).toList = l ++ '\n' :: (completed rest).toList := by
  have hends : endsLine text = endsLine rest := by
    rw [endsLine, endsLine, htext, List.getLast?_append, List.getLast?_cons]
    simp [List.getLast?_eq_some_getLast hne]
  rw [toList_completed, toList_completed, hends]
  split <;> simp [htext]

end Source

-- ---------------------------------------------------------------------------
-- One line and the rest
-- ---------------------------------------------------------------------------

namespace Lexed

theorem ended_ofText {text : String} (h : (ofText text).error = none) :
    (ofText text).tokens.Ended := by
  rw [ofText_eq] at h ⊢
  obtain ⟨ts, -, hscan | ⟨e, hscan⟩⟩ := scan_cases (.atEnd text.toList) (located [] text.toList)
  · exact ⟨.endOfFile (.atEnd text.toList), by simp [hscan], rfl⟩
  · simp [hscan] at h

/-- The problems of a scan at other positions are the same at those positions. -/
theorem problem?_relocate (f : Position → Position) (limit : Nat) {x : Lexed}
    (h : x.error = none → x.tokens.Ended) :
    (x.relocate f).problem? limit = (x.problem? limit).map (Problem.relocate f) := by
  cases he : x.error with
  | some e => simp [problem?, relocate, he, Problem.relocate]
  | none =>
    simp only [problem?, relocate, he, Option.map_none, Program.check_relocate f limit (h he)]
    cases Program.check limit x.tokens <;> rfl

end Lexed

namespace Problem

/-- What is wrong with a text that the check of its tokens gives this answer for. -/
def ofCheck : Except SyntaxError Unit → Option Problem
  | .ok () => none
  | .error e => some (.syntactic e)

/-- What is wrong with a source by what is wrong with its first line and with the rest. -/
def foremost : Option Problem → Option Problem → Option Problem
  | some (.lexical e), _ => some (.lexical e)
  | some _, some (.lexical e) => some (.lexical e)
  | some p, _ => some p
  | none, q => q

end Problem

variable {limit : Nat} {l : List Char} {text first rest : String}

namespace Lexed

theorem problem?_of_error {x : Lexed} {e : InvalidCharacter} (h : x.error = some e) :
    x.problem? limit = some (.lexical e) := by
  simp [problem?, h]

theorem problem?_of_check {x : Lexed} (h : x.error = none) :
    x.problem? limit = Problem.ofCheck (Program.check limit x.tokens) := by
  simp only [problem?, h]
  cases Program.check limit x.tokens <;> rfl

theorem problem?_blank (hlimit : 0 < limit) (p : Position) :
    problem? { tokens := [.endOfFile p] } limit = none := by
  rw [problem?_of_check rfl, Program.check_endOfFile hlimit]
  rfl

/-- A line with tokens is rejected at one of them, or it does not matter for what follows it. -/
theorem problem?_line (hlimit : 0 < limit) {ts : Tokens} {newline : Token}
    (hline : Tokens.Line ts newline) :
    (∃ e, ∃ t ∈ ts ++ [newline], e.at t = e ∧ ∀ x : Lexed, x.error = none → x.tokens.Ended →
      (x.behind (ts ++ [newline])).problem? limit = some (.syntactic e)) ∨
    ∀ x : Lexed, x.error = none → x.tokens.Ended →
      (x.behind (ts ++ [newline])).problem? limit = x.problem? limit := by
  obtain ⟨e, t, ht, hat, -, hcheck⟩ | hcheck := Program.check_line hlimit hline
  · refine .inl ⟨e, t, ht, hat, fun x hx hended => ?_⟩
    rw [problem?_of_check (x := x.behind _) hx, tokens_behind, hcheck _ hended]
    rfl
  · refine .inr fun x hx hended => ?_
    rw [problem?_of_check (x := x.behind _) hx, problem?_of_check hx, tokens_behind,
      hcheck _ hended]

/-- A line in front of other tokens has its own problem, if it has one. -/
theorem problem?_behind_line (hlimit : 0 < limit) {ts : Tokens} {newline : Token}
    (hline : Tokens.Line ts newline) (finish : Position) {y : Lexed}
    (hended : y.error = none → y.tokens.Ended) :
    (y.behind (ts ++ [newline])).problem? limit =
      Problem.foremost ((behind (ts ++ [newline]) { tokens := [.endOfFile finish] }).problem? limit)
        (y.problem? limit) := by
  have hend : Tokens.Ended [.endOfFile finish] := ⟨_, rfl, rfl⟩
  obtain ⟨e, t, -, -, hproblem⟩ | hproblem := problem?_line hlimit hline
  · rw [hproblem { tokens := [.endOfFile finish] } rfl hend]
    cases hy : y.error with
    | some e' =>
      rw [problem?_of_error (x := y.behind _) hy, problem?_of_error hy]
      rfl
    | none =>
      rw [hproblem y hy (hended hy), problem?_of_check hy]
      cases Program.check limit y.tokens <;> rfl
  · rw [hproblem { tokens := [.endOfFile finish] } rfl hend, problem?_blank hlimit]
    cases hy : y.error with
    | some e' =>
      rw [problem?_of_error (x := y.behind _) hy, problem?_of_error hy]
      rfl
    | none =>
      rw [hproblem y hy (hended hy)]
      rfl

/-- What is wrong with a line is wrong on the first line. -/
theorem problem?_onLine (hlimit : 0 < limit) (hl : '\n' ∉ l)
    (hfirst : first.toList = l ++ ['\n']) {p : Problem}
    (h : (ofText first).problem? limit = some p) :
    p.relocate (Position.onLine 1) = p := by
  have hofLine := ofLine hl hfirst
  generalize ofText first = x at h hofLine
  cases hofLine with
  | blank finish => simp [problem?_blank hlimit] at h
  | @tokens ts newline finish hne hline hkinds hnewline =>
    obtain ⟨e, t, ht, hat, hproblem⟩ | hproblem := problem?_line hlimit ⟨hkinds, hnewline⟩
    · obtain rfl : Problem.syntactic e = p := Option.some.inj <|
        (hproblem _ rfl ⟨_, rfl, rfl⟩).symm.trans h
      have htoken : t.relocate (Position.onLine 1) = t := by
        rw [Token.relocate, Position.onLine_eq_self (hline t ht)]
      rw [Problem.relocate, ← hat, SyntaxError.relocate_at, htoken]
    · rw [hproblem _ rfl ⟨_, rfl, rfl⟩, problem?_blank hlimit] at h
      cases h
  | @invalid ts e hline =>
    obtain rfl : Problem.lexical e = p := Option.some.inj h
    rw [Problem.relocate, InvalidCharacter.relocate, Position.onLine_eq_self hline]

/-- Behind a line the rest is checked as a source of its own, and the problems that it has there are
those of the source, one line further down. -/
theorem problem?_newline (hlimit : 0 < limit) (hl : '\n' ∉ l)
    (hfirst : first.toList = l ++ ['\n']) (htext : text.toList = l ++ '\n' :: rest.toList) :
    (ofText text).problem? limit =
      Problem.foremost ((ofText first).problem? limit)
        (((ofText rest).problem? limit).map (Problem.relocate (Position.down 1))) := by
  rw [← problem?_relocate _ _ ended_ofText, ofText_newline hfirst htext,
    List.count_eq_zero_of_not_mem hl, Nat.zero_add]
  have hofLine := ofLine hl hfirst
  have hended : ((ofText rest).relocate (Position.down 1)).error = none →
      ((ofText rest).relocate (Position.down 1)).tokens.Ended := by
    intro h
    exact (ended_ofText (Option.map_eq_none_iff.1 h)).relocate _
  generalize (ofText rest).relocate (Position.down 1) = y at hended
  generalize ofText first = x at hofLine
  cases hofLine with
  | blank finish =>
    rw [problem?_blank hlimit]
    rfl
  | @tokens ts newline finish hne hline hkinds hnewline =>
    have handThen : andThen (behind (ts ++ [newline]) { tokens := [.endOfFile finish] }) y =
        y.behind (ts ++ [newline]) := by
      simp [andThen]
    rw [handThen]
    exact problem?_behind_line hlimit ⟨hkinds, hnewline⟩ finish hended
  | invalid hline => rfl

end Lexed

-- ---------------------------------------------------------------------------
-- All lines
-- ---------------------------------------------------------------------------

namespace Source

theorem toList_completed_ofList (hl : '\n' ∉ l) :
    (completed (String.ofList l)).toList = l ++ ['\n'] := by
  rw [toList_completed_of_not_mem (by simpa using hl), String.toList_ofList]

theorem problem?_empty (hlimit : 0 < limit) : problem? limit "" = none := by
  have hblank : Lexed.ofText (completed "") = { tokens := [.endOfFile ⟨2, 1⟩] } := by
    decide +kernel
  rw [problem?, hblank, Lexed.problem?_blank hlimit]

/-- A source with a newline has the problems of its first line and of the rest. -/
theorem problem?_newline (hlimit : 0 < limit) (hl : '\n' ∉ l)
    (htext : text.toList = l ++ '\n' :: rest.toList) :
    problem? limit text = Problem.foremost (problem? limit (String.ofList l))
      ((problem? limit rest).map (Problem.relocate (Position.down 1))) := by
  have hfirst := toList_completed_ofList hl
  by_cases hne : rest.toList = []
  · -- The newline at the end of a source ends its last line and begins no other one.
    have hends : endsLine text = true := by simp [endsLine, htext, hne]
    have htext' : completed text = completed (String.ofList l) := by
      rw [completed_of_endsLine hends, ← String.toList_inj, hfirst, htext, hne]
    have hempty : problem? limit rest = none := by
      obtain rfl : rest = "" := String.toList_inj.1 hne
      exact problem?_empty hlimit
    rw [hempty, problem?, htext', Option.map_none]
    show problem? limit (String.ofList l) = _
    cases problem? limit (String.ofList l) with
    | none => rfl
    | some p => cases p <;> rfl
  · exact Lexed.problem?_newline hlimit hl hfirst (toList_completed_of_newline htext hne)

end Source

namespace Problem

/-- What is wrong with a source by what is wrong with each of its lines. -/
def foremostOf : List (Option Problem) → Option Problem
  | [] => none
  | p :: ps => foremost p ((foremostOf ps).map (relocate (Position.down 1)))

/-- Among the problems of lines, `p` at the index `i` comes before all others: it is the first
invalid character, or there is none and it is the first syntax error. -/
inductive Foremost : List (Option Problem) → Nat → Problem → Prop where
  | lexical (before after : List (Option Problem)) {e : InvalidCharacter}
      (hbefore : ∀ e', some (.lexical e') ∉ before) :
      Foremost (before ++ some (.lexical e) :: after) before.length (.lexical e)
  | syntactic (before after : List (Option Problem)) {e : SyntaxError}
      (hbefore : ∀ p ∈ before, p = none) (hafter : ∀ e', some (.lexical e') ∉ after) :
      Foremost (before ++ some (.syntactic e) :: after) before.length (.syntactic e)

namespace Foremost

variable {ps : List (Option Problem)} {i : Nat} {q : Problem}

/-- A line with no problem may come first. -/
theorem cons_none (h : Foremost ps i q) : Foremost (none :: ps) (i + 1) q := by
  cases h with
  | lexical before after hbefore => exact .lexical (none :: before) after (by simpa using hbefore)
  | syntactic before after hbefore hafter =>
    exact .syntactic (none :: before) after (by simpa using hbefore) hafter

/-- A line with a syntax error may come before one with an invalid character. -/
theorem cons_syntactic {e : InvalidCharacter} (h : Foremost ps i (.lexical e)) (e' : SyntaxError) :
    Foremost (some (.syntactic e') :: ps) (i + 1) (.lexical e) := by
  cases h with
  | lexical before after hbefore =>
    exact .lexical (some (.syntactic e') :: before) after (by simpa using hbefore)

theorem lexical_not_mem {e : SyntaxError} (h : Foremost ps i (.syntactic e))
    (e' : InvalidCharacter) : some (.lexical e') ∉ ps := by
  cases h with
  | syntactic before after hbefore hafter =>
    intro hmem
    obtain hmem | hmem := List.mem_append.1 hmem
    · cases hbefore _ hmem
    · obtain heq | hmem := List.mem_cons.1 hmem
      · cases heq
      · exact hafter e' hmem

theorem mem (h : Foremost ps i q) : some q ∈ ps := by
  cases h <;> simp

theorem lt_length (h : Foremost ps i q) : i < ps.length := by
  cases h <;> simp

end Foremost

/-- The problem of a text, not of a file or of a string. -/
def OfText : Problem → Prop
  | lexical _ | syntactic _ => True
  | unreadable _ | mismatch _ => False

/-- What is wrong with a source has its number of lines further down from its own line. -/
def IsForemostOf (ps : List (Option Problem)) : Option Problem → Prop
  | none => ∀ p ∈ ps, p = none
  | some p => ∃ i q, Foremost ps i q ∧ p = q.relocate (Position.down i)

theorem relocate_down_down (q : Problem) (i : Nat) :
    (q.relocate (Position.down i)).relocate (Position.down 1) =
      q.relocate (Position.down (i + 1)) := by
  rw [relocate_relocate]
  congr 1
  funext p
  exact Position.down_down i 1 p

theorem relocate_down_zero (q : Problem) : q.relocate (Position.down 0) = q := by
  rw [show Position.down 0 = id from funext Position.down_zero, relocate_id]

/-- One more line comes first. -/
theorem IsForemostOf.cons {ps : List (Option Problem)} {p r : Option Problem}
    (hp : ∀ q, p = some q → q.OfText) (h : IsForemostOf ps r) :
    IsForemostOf (p :: ps) (foremost p (r.map (relocate (Position.down 1)))) := by
  cases p with
  | none =>
    cases r with
    | none => exact List.forall_mem_cons.2 ⟨rfl, h⟩
    | some r =>
      obtain ⟨i, q, hq, rfl⟩ := h
      exact ⟨i + 1, q, hq.cons_none, relocate_down_down q i⟩
  | some p =>
    cases p with
    | unreadable | mismatch => exact (hp _ rfl).elim
    | lexical e =>
      exact ⟨0, .lexical e, .lexical [] ps (by simp), (relocate_down_zero _).symm⟩
    | syntactic e =>
      have hfirst : (∀ e', some (lexical e') ∉ ps) →
          IsForemostOf (some (.syntactic e) :: ps) (some (.syntactic e)) := fun hnot =>
        ⟨0, .syntactic e, .syntactic [] ps (by simp) hnot, (relocate_down_zero _).symm⟩
      cases r with
      | none => exact hfirst fun e' hmem => by cases h _ hmem
      | some r =>
        obtain ⟨i, q, hq, rfl⟩ := h
        cases q with
        | unreadable | mismatch => cases hq
        | lexical e' => exact ⟨i + 1, _, hq.cons_syntactic e, relocate_down_down (.lexical e') i⟩
        | syntactic e' => exact hfirst hq.lexical_not_mem

theorem isForemostOf {ps : List (Option Problem)} (hps : ∀ p, some p ∈ ps → p.OfText) :
    IsForemostOf ps (foremostOf ps) := by
  induction ps with
  | nil => exact fun p hp => by cases hp
  | cons p ps ih =>
    refine (ih fun q hq => hps q (.tail _ hq)).cons fun q hq => hps q ?_
    rw [hq]
    exact .head _

end Problem

namespace Source

theorem ofText_of_problem? {source : String} {p : Problem} (h : problem? limit source = some p) :
    p.OfText := by
  unfold problem? Lexed.problem? at h
  split at h
  · obtain rfl := Option.some.inj h
    trivial
  · split at h
    · cases h
    · obtain rfl := Option.some.inj h
      trivial

/-- A source has the foremost of the problems of its lines. -/
theorem problem?_lines (hlimit : 0 < limit) {cs : List Char} {ls : List (List Char)}
    (h : Lines cs ls) :
    problem? limit (String.ofList cs) =
      Problem.foremostOf (ls.map fun l => problem? limit (String.ofList l)) := by
  induction h with
  | @last l hl =>
    show _ = Problem.foremost (problem? limit (String.ofList l)) none
    cases problem? limit (String.ofList l) with
    | none => rfl
    | some p => cases p <;> rfl
  | @line l cs ls hl _ ih =>
    rw [List.map_cons, Problem.foremostOf, ← ih]
    exact problem?_newline hlimit hl (by simp)

theorem map_lines (source : String) :
    (lines source).map (problem? limit) =
      (source.toList.splitOn '\n').map fun l => problem? limit (String.ofList l) := by
  simp [lines, Function.comp_def]

/-- A line is some text without newlines. -/
theorem exists_of_mem_lines {line source : String} (h : line ∈ lines source) :
    ∃ l, '\n' ∉ l ∧ line = String.ofList l := by
  obtain ⟨l, hl, rfl⟩ := List.mem_map.1 h
  exact ⟨l, (lines_splitOn source.toList).not_mem hl, rfl⟩

theorem length_lines_le (source : String) : (lines source).length ≤ source.length + 1 := by
  rw [lines, List.length_map, ← String.length_toList]
  exact (lines_splitOn source.toList).length_le

/-- What is wrong with a source is what is wrong with one of its lines, as many lines further down
as there are in front of that one. -/
theorem isForemostOf_lines (hlimit : 0 < limit) (source : String) :
    Problem.IsForemostOf ((lines source).map (problem? limit)) (problem? limit source) := by
  have hproblem := problem?_lines hlimit (lines_splitOn source.toList)
  rw [String.ofList_toList] at hproblem
  rw [hproblem, ← map_lines]
  refine Problem.isForemostOf fun p hp => ?_
  obtain ⟨line, -, hline⟩ := List.mem_map.1 hp
  exact ofText_of_problem? hline

/-- A line that is checked by itself has its problem on the first line. -/
theorem problem?_onLine {line source : String} (hlimit : 0 < limit) (hline : line ∈ lines source)
    {q : Problem} (h : problem? limit line = some q) : q.relocate (Position.onLine 1) = q := by
  obtain ⟨l, hl, rfl⟩ := exists_of_mem_lines hline
  exact Lexed.problem?_onLine hlimit hl (toList_completed_ofList hl) h

/-- Nothing is wrong with a source when nothing is wrong with any of its lines. -/
theorem problem?_eq_none_iff (hlimit : 0 < limit) (source : String) :
    problem? limit source = none ↔ ∀ line ∈ lines source, problem? limit line = none := by
  have hforemost := isForemostOf_lines hlimit source
  cases hp : problem? limit source with
  | none =>
    rw [hp] at hforemost
    exact iff_of_true rfl fun line hline => hforemost _ (List.mem_map_of_mem hline)
  | some p =>
    rw [hp] at hforemost
    obtain ⟨i, q, hq, -⟩ := hforemost
    refine iff_of_false (by simp) fun hnone => ?_
    obtain ⟨line, hline, hq'⟩ := List.mem_map.1 hq.mem
    simp [hnone line hline] at hq'

/-- The number of a line fits, because a source has no more than one line for each character and
one more. -/
theorem exists_foremost (hlimit : 0 < limit) {source : String}
    (hlength : source.length < UInt32.size - 2) {p : Problem}
    (h : problem? limit source = some p) :
    ∃ i q, Problem.Foremost ((lines source).map (problem? limit)) i q ∧
      q.relocate (Position.onLine 1) = q ∧
      ∃ number : UInt32, number.toNat = i + 1 ∧ p = q.relocate (Position.onLine number) := by
  have hforemost := isForemostOf_lines hlimit source
  rw [h] at hforemost
  obtain ⟨i, q, hq, rfl⟩ := hforemost
  obtain ⟨line, hline, hq'⟩ := List.mem_map.1 hq.mem
  have hself := problem?_onLine hlimit hline hq'
  have hi : i < UInt32.size - 1 := by
    have hlt := hq.lt_length
    have hle := length_lines_le source
    rw [List.length_map] at hlt
    omega
  refine ⟨i, q, hq, hself, 1 + UInt32.ofNat i, ?_, ?_⟩
  · rw [← UInt32.ofNat_one, ← UInt32.ofNat_add, UInt32.toNat_ofNat_of_lt' (by omega), Nat.add_comm]
  · calc q.relocate (Position.down i)
        = (q.relocate (Position.onLine 1)).relocate (Position.down i) := by rw [hself]
      _ = q.relocate (Position.onLine (1 + UInt32.ofNat i)) := Problem.relocate_relocate _ _ q

end Source

/-- A source passes when all of its lines do. When it does not, it is reported to have the foremost
of the problems that its lines have, each by itself, at the number of that line. -/
theorem checkSource_lines (source : String) (o : Options) (terminal : Bool) (d : Device)
    (hlength : source.length < UInt32.size - 2) (hdepth : 1 ≤ o.maxDepth) (hd : d.Endless) :
    ((∃ d', checkSource source o terminal d = .ok .success d') ↔
      ∀ line ∈ lines source, ∃ d', checkSource line o terminal d = .ok .success d') ∧
    ((¬ ∃ d', checkSource source o terminal d = .ok .success d') →
      ∃ p, Reports source o terminal p ∧
        ∃ i q, Problem.Foremost ((lines source).map (problem? o.maxDepth)) i q ∧
          q.relocate (Position.onLine 1) = q ∧
          ∃ number : UInt32, number.toNat = i + 1 ∧ p = q.relocate (Position.onLine number)) := by
  simp only [checkSource_success_iff _ _ _ hd]
  refine ⟨problem?_eq_none_iff hdepth source, fun hfails => ?_⟩
  obtain ⟨p, hp⟩ := Option.ne_none_iff_exists'.1 hfails
  exact ⟨p, reports_of_problem? hp, exists_foremost hdepth hlength hp⟩

/-- A source with a good line and one that lacks a parenthesis. -/
theorem checkSource_lines_missing_parenthesis :
    "x = 1\nprint 2\n".length < UInt32.size - 2 ∧ 1 ≤ Program.defaultLimit ∧ Device.Endless {} ∧
      ∃ p, Reports "x = 1\nprint 2\n" { input := "main" } true p ∧
        ∃ i q, Problem.Foremost
            ((lines "x = 1\nprint 2\n").map (problem? Program.defaultLimit)) i q ∧
          q.relocate (Position.onLine 1) = q ∧
          ∃ number : UInt32, number.toNat = i + 1 ∧ p = q.relocate (Position.onLine number) :=
  have hproblem : problem? Program.defaultLimit "x = 1\nprint 2\n" =
      some (.syntactic (.unexpectedToken (.kind .leftParen) ⟨.unsignedInt, "2", ⟨2, 7⟩⟩)) := by
    decide +kernel
  have hendless : Device.Endless {} := rfl
  have hfails : ¬ ∃ d', checkSource "x = 1\nprint 2\n" { input := "main" } true {} =
      .ok .success d' := by
    rw [checkSource_success_iff _ _ _ hendless]
    exact fun hnone => nomatch hnone.symm.trans hproblem
  ⟨by decide, by decide, hendless,
    (checkSource_lines "x = 1\nprint 2\n" { input := "main" } true {} (by decide) (by decide)
      hendless).2 hfails⟩

end FrontEnd

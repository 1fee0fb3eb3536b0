-- SUMMARY: How a check is presented has no influence on how it ends, and the trace is one more piece in front of what is written without it.
import FrontEnd.Proofs.Output.Unfailing
import FrontEnd.Proofs.Token.Observing

/-!
# Presentation

The trace is an observer of the scan: it writes a row for each token until a write
fails, and what is left of it is the outcome of its last write. A check that
traces while it scans is the check that scans first and then writes the table
(`checkWhileScanning_eq`).

So the options for the presentation decide about texts only: about the table in
front, and about the words of the report behind it.
-/

namespace FrontEnd

-- ---------------------------------------------------------------------------
-- Traces by tokens
-- ---------------------------------------------------------------------------

namespace Trace

/-- How the writing of the trace came so far. -/
abbrev Progress := EStateM.Result WriteFailure Device Unit

/-- Write the row of a token, unless an earlier one failed. -/
def observe (t : Token) : Progress → Progress
  | .ok () d => writeRow t d
  | .error e d => .error e d

theorem observing_observe_error (e : WriteFailure) (d : Device) (ts : Tokens) :
    Lexed.observing observe (.error e d) ts = .error e d := by
  induction ts with
  | nil => rfl
  | cons t ts ih => exact ih

theorem observing_observe_ok (d : Device) (ts : Tokens) :
    Lexed.observing observe (.ok () d) ts = ts.forM writeRow d := by
  induction ts generalizing d with
  | nil => rfl
  | cons t ts ih =>
    show Lexed.observing observe (writeRow t d) ts = (do writeRow t; ts.forM writeRow) d
    cases h : writeRow t d with
    | ok _ d' =>
      simp only [bind, EStateM.bind, h]
      exact ih d'
    | error e d' =>
      simp only [bind, EStateM.bind, h]
      exact observing_observe_error e d' ts

/-- Scan a text and write a row for each token while it is scanned. The first row that failed
decides, whatever the scan came to. -/
def scan (text : String) : Write Lexed := fun d =>
  match Lexed.ofTextWith observe (.ok () d) text with
  | (lexed, .ok () d) => .ok lexed d
  | (_, .error e d) => .error e d

theorem scan_eq (text : String) :
    scan text = (do
      (Lexed.ofText text).tokens.forM writeRow
      return Lexed.ofText text) := by
  funext d
  simp only [scan, Lexed.ofTextWith_eq, observing_observe_ok, bind, EStateM.bind]
  cases (Lexed.ofText text).tokens.forM writeRow d <;> rfl

end Trace

/-- Check a source text and write the trace while it is scanned. -/
def checkWhileScanning (source : String) (o : Options) (terminal : Bool) : Write Exit := do
  if o.trace then
    Trace.writeHeader
    let lexed ← Trace.scan (Source.completed source)
    conclude (lexed.problem? o.maxDepth) o terminal
  else
    conclude (Source.problem? o.maxDepth source) o terminal

theorem checkWhileScanning_eq (source : String) (o : Options) (terminal : Bool) :
    checkWhileScanning source o terminal = checkSource source o terminal := by
  unfold checkWhileScanning
  rw [checkSource_eq_conclude]
  cases o.trace with
  | true =>
    rw [Trace.scan_eq]
    simp only [if_true, Trace.write, bind_assoc, pure_bind]
    rfl
  | false => rfl

-- ---------------------------------------------------------------------------
-- Presentation
-- ---------------------------------------------------------------------------

/-- How a check ends is a matter of the source and of the limit on nesting, and not of the options
for its presentation. With the trace turned on, the output is the header, a blank line and a row for
each token that is handed to an observer of the scan, in order, and behind them all that is written
with the trace turned off. To write the rows while the text is scanned makes no difference. -/
theorem checkSource_presentation (source : String) (o o' : Options) (terminal terminal' : Bool)
    (d d' : Device) (hlimit : o.maxDepth = o'.maxDepth) (hd : d.Endless) (hd' : d'.Endless) :
    (∃ exit e e', checkSource source o terminal d = .ok exit e ∧
      checkSource source o' terminal' d' = .ok exit e') ∧
    (∃ exit e e' rest,
      checkSource source { o with trace := false } terminal d = .ok exit e ∧
      checkSource source { o with trace := true } terminal d = .ok exit e' ∧
      e.contents = d.contents ++ rest ∧
      e'.contents = d.contents ++ (Trace.header ++ "\n" ++ "\n" ++ String.join
        ((Lexed.handed (Source.completed source)).map fun t => Trace.row t ++ "\n")).toUTF8 ++
          rest) ∧
    checkWhileScanning source o terminal = checkSource source o terminal := by
  simp only [checkSource_eq_put, Write.put_return_of_endless _ _ hd,
    Write.put_return_of_endless _ _ hd', ← hlimit, Lexed.handed_eq]
  refine ⟨⟨_, _, _, rfl, rfl⟩, ⟨_, _, _,
    (Problem.closingText (Source.problem? o.maxDepth source) o terminal).toUTF8, rfl, rfl, ?_, ?_⟩,
    (checkWhileScanning_eq source o terminal).trans (checkSource_eq_put source o terminal)⟩
  · have htext : Source.checkText source { o with trace := false } terminal =
        Problem.closingText (Source.problem? o.maxDepth source) o terminal :=
      String.empty_append
    rw [htext]
  · have htext : Source.checkText source { o with trace := true } terminal =
        Trace.text (Lexed.ofText (Source.completed source)).tokens ++
          Problem.closingText (Source.problem? o.maxDepth source) o terminal :=
      rfl
    rw [htext, String.toUTF8_eq_toByteArray, String.toByteArray_append, ByteArray.append_assoc]
    rfl

/-- A source with a character that starts no token: with a trace on a terminal and in JSON without
one it ends in the same way, and the trace shows the two tokens in front of the character. -/
theorem checkSource_presentation_invalid :
    Device.Endless {} ∧
      (∃ exit e e', checkSource "x = $" { input := "main" } true {} = .ok exit e ∧
        checkSource "x = $" { input := "main", trace := false, errorFormat := .json } false {} =
          .ok exit e') ∧
      ∃ exit e e' rest,
        checkSource "x = $" { input := "main", trace := false } true {} = .ok exit e ∧
        checkSource "x = $" { input := "main" } true {} = .ok exit e' ∧
        e.contents = ByteArray.empty ++ rest ∧
        e'.contents = ByteArray.empty ++ (Trace.header ++ "\n" ++ "\n" ++
          String.join ([⟨.name, "x", ⟨1, 1⟩⟩, ⟨.assign, "=", ⟨1, 3⟩⟩].map fun t =>
            Trace.row t ++ "\n")).toUTF8 ++ rest := by
  have hendless : Device.Endless {} := rfl
  have hhanded : Lexed.handed (Source.completed "x = $") =
      [⟨.name, "x", ⟨1, 1⟩⟩, ⟨.assign, "=", ⟨1, 3⟩⟩] := by
    decide +kernel
  rw [← hhanded]
  obtain ⟨hends, hbehind, -⟩ := checkSource_presentation "x = $" { input := "main" }
    { input := "main", trace := false, errorFormat := .json } true false {} {} rfl hendless hendless
  exact ⟨hendless, hends, hbehind⟩

end FrontEnd

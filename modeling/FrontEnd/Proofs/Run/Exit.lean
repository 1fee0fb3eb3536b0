-- SUMMARY: Which runs succeed, and which device is told what about the others.
import FrontEnd.Proofs.Run.Outcome

/-!
# Exits of runs

A run succeeds when it answers a question or finds nothing wrong with its input
(`Run.Passes`). All that is wrong is told on the output, except that there is no
source to check (`Run.LacksSource`): that is told on the error device, and then
the output stays empty.
-/

namespace FrontEnd

-- ---------------------------------------------------------------------------
-- Problems and their reports
-- ---------------------------------------------------------------------------

theorem Diagnostic.reportText_ne_empty (d : Diagnostic) (format : ReportFormat) (colors : Bool) :
    d.reportText format colors ≠ "" := by
  cases format <;> simp [reportText, JsonArray.arrayText]

theorem Problem.closingText_eq_empty_iff {p : Option Problem} {o : Options} {terminal : Bool} :
    closingText p o terminal = "" ↔ p = none := by
  cases p with
  | none => exact iff_of_true rfl rfl
  | some p => exact iff_of_false (p.reported.reportText_ne_empty _ _) nofun

theorem Exit.ofProblem?_eq_success_iff {p : Option Problem} :
    ofProblem? p = success ↔ p = none := by
  cases p <;> simp [ofProblem?]

theorem Exit.status_eq_zero_iff {e : Exit} : e.status = 0 ↔ e = success := by
  cases e <;> decide

theorem Exit.status_eq_one_iff {e : Exit} : e.status = 1 ↔ e = failure := by
  cases e <;> decide

theorem CharGrammar.problem?_eq_none_iff {g : CharGrammar} {input : String} :
    g.problem? input = none ↔ g.recognize input = .ok () := by
  unfold problem?
  split <;> simp_all

/-- Nothing is wrong with a text that scans to its end and parses. -/
theorem Lexed.problem?_eq_none_iff {x : Lexed} {limit : Nat} :
    x.problem? limit = none ↔ ∃ ts, x.result = .ok ts ∧ Program.check limit ts = .ok () := by
  unfold problem? result
  cases x.error with
  | some e => simp
  | none => cases h : Program.check limit x.tokens <;> simp [h]

-- ---------------------------------------------------------------------------
-- Exits and devices
-- ---------------------------------------------------------------------------

namespace Run

theorem Outcome.exit_ofProblem? (channel : Channel) (trace : String) (p : Option Problem)
    (o : Options) (terminal : Bool) :
    (ofProblem? channel trace p o terminal).exit = .ofProblem? p :=
  rfl

/-- The command line asks for something that is done and finds nothing wrong. -/
inductive Passes (read : ReadSource) : Except UsageError Command → Prop where
  | help : Passes read (.ok .help)
  | explain (code : Code) : Passes read (.ok (.explain code))
  /-- The string is in the language of the grammar. -/
  | recognized {o : Options} {g : CharGrammar} (hgrammar : o.grammar = some g)
      (h : g.recognize o.input = .ok ()) : Passes read (.ok (.run o))
  /-- The file can be read, and its text with a newline at its end scans and parses. -/
  | parsed {o : Options} {source : String} {ts : Tokens} (hgrammar : o.grammar = none)
      (hread : read o.input = .ok source)
      (hscan : (Lexed.ofText (Source.completed source)).result = .ok ts)
      (hparse : Program.check o.maxDepth ts = .ok ()) : Passes read (.ok (.run o))

/-- The command line asks for the check of a file that cannot be read. -/
inductive LacksSource (read : ReadSource) : Except UsageError Command → Prop where
  | intro {o : Options} {cause : ReadFailure} (hgrammar : o.grammar = none)
      (hread : read o.input = .error cause) : LacksSource read (.ok (.run o))

/-- The trace that a command line gets to see. -/
def traceText (read : ReadSource) : Except UsageError Command → String
  | .ok (.run o) =>
    match o.grammar, read o.input with
    | none, .ok source => Source.traceText source o
    | _, _ => ""
  | _ => ""

variable {command : Except UsageError Command} {read : ReadSource} {terminal : Bool} {o : Options}

/-- A run has a grammar, or a file that cannot be read, or a source. -/
@[elab_as_elim]
theorem executed_cases {motive : Outcome → Prop} (o : Options) (read : ReadSource) (terminal : Bool)
    (recognizing : ∀ g, o.grammar = some g →
      motive (.ofProblem? .out "" (g.problem? o.input) o terminal))
    (unreadable : ∀ cause, o.grammar = none → read o.input = .error cause →
      motive (.ofProblem? .err "" (some (.unreadable ⟨o.input, cause⟩)) o terminal))
    (checking : ∀ source, o.grammar = none → read o.input = .ok source →
      motive (.ofProblem? .out (Source.traceText source o) (Source.problem? o.maxDepth source) o
        terminal)) :
    motive (executed o read terminal) := by
  unfold executed
  split
  · next g hgrammar => exact recognizing g hgrammar
  · next hgrammar =>
    split
    · next cause hread => exact unreadable cause hgrammar hread
    · next source hread => exact checking source hgrammar hread

theorem executed_success_iff :
    (executed o read terminal).exit = .success ↔ Passes read (.ok (.run o)) := by
  refine executed_cases o read terminal (fun g hgrammar => ?_)
    (fun cause hgrammar hread => ?_) fun source hgrammar hread => ?_
  · rw [Outcome.exit_ofProblem?, Exit.ofProblem?_eq_success_iff,
      CharGrammar.problem?_eq_none_iff]
    refine ⟨.recognized hgrammar, fun h => ?_⟩
    cases h with
    | recognized hgrammar' h =>
      cases hgrammar.symm.trans hgrammar'
      exact h
    | parsed hgrammar' => cases hgrammar.symm.trans hgrammar'
  · refine iff_of_false nofun fun h => ?_
    cases h with
    | recognized hgrammar' => cases hgrammar.symm.trans hgrammar'
    | parsed _ hread' => cases hread.symm.trans hread'
  · rw [Outcome.exit_ofProblem?, Exit.ofProblem?_eq_success_iff, Source.problem?,
      Lexed.problem?_eq_none_iff]
    refine ⟨fun ⟨ts, hscan, hparse⟩ => .parsed hgrammar hread hscan hparse, fun h => ?_⟩
    cases h with
    | recognized hgrammar' => cases hgrammar.symm.trans hgrammar'
    | parsed _ hread' hscan hparse =>
      cases hread.symm.trans hread'
      exact ⟨_, hscan, hparse⟩

theorem outcome_success_iff :
    (outcome command read terminal).exit = .success ↔ Passes read command := by
  cases command with
  | error e => exact iff_of_false nofun nofun
  | ok command =>
    cases command with
    | help => exact iff_of_true rfl .help
    | explain code => exact iff_of_true rfl (.explain code)
    | run o => exact executed_success_iff

/-- A run has nothing to say exactly when it succeeds. -/
theorem answer_executed_eq_empty_iff :
    (executed o read terminal).answer = "" ↔ (executed o read terminal).exit = .success := by
  have hproblem (channel : Channel) (trace : String) (p : Option Problem) :
      (Outcome.ofProblem? channel trace p o terminal).answer = "" ↔
        (Outcome.ofProblem? channel trace p o terminal).exit = .success :=
    Problem.closingText_eq_empty_iff.trans Exit.ofProblem?_eq_success_iff.symm
  exact executed_cases o read terminal (fun _ _ => hproblem _ _ _) (fun _ _ _ => hproblem _ _ _)
    fun _ _ _ => hproblem _ _ _

theorem answer_ne_empty (h : (outcome command read terminal).exit = .failure) :
    (outcome command read terminal).answer ≠ "" := by
  cases command with
  | error e => simp [outcome, usage]
  | ok command =>
    cases command with
    | help | explain => cases h
    | run o =>
      intro hempty
      cases h.symm.trans (answer_executed_eq_empty_iff.1 hempty)

theorem channel_eq_err_iff :
    (outcome command read terminal).channel = .err ↔ LacksSource read command := by
  cases command with
  | error e => exact iff_of_false nofun nofun
  | ok command =>
    cases command with
    | help | explain => exact iff_of_false nofun nofun
    | run o =>
      show (executed o read terminal).channel = .err ↔ _
      refine executed_cases o read terminal (fun g hgrammar => ?_)
        (fun cause hgrammar hread => iff_of_true rfl ⟨hgrammar, hread⟩) fun source _ hread => ?_
      · refine iff_of_false nofun fun ⟨hgrammar', _⟩ => ?_
        cases hgrammar.symm.trans hgrammar'
      · refine iff_of_false nofun fun ⟨_, hread'⟩ => ?_
        cases hread.symm.trans hread'

theorem trace_outcome (command : Except UsageError Command) (read : ReadSource) (terminal : Bool) :
    (outcome command read terminal).trace = traceText read command := by
  cases command with
  | error e => rfl
  | ok command =>
    cases command with
    | help | explain => rfl
    | run o =>
      show (executed o read terminal).trace = _
      refine executed_cases o read terminal (fun g hgrammar => ?_)
        (fun cause hgrammar hread => ?_) fun source hgrammar hread => ?_
      · simp only [traceText, hgrammar, Outcome.ofProblem?]
      · simp only [traceText, hgrammar, hread, Outcome.ofProblem?]
      · simp only [traceText, hgrammar, hread, Outcome.ofProblem?]

theorem traceText_of_lacksSource (h : LacksSource read command) : traceText read command = "" := by
  obtain ⟨hgrammar, hread⟩ := h
  simp only [traceText, hgrammar, hread]

theorem traceText_eq_empty (h : o.trace = false ∨ o.grammar.isSome) :
    traceText read (.ok (.run o)) = "" := by
  simp only [traceText]
  split
  · next hgrammar _ =>
    have htrace : o.trace = false := by simpa [hgrammar] using h
    simp [Source.traceText, htrace]
  · rfl

/-- Where a run lacks its source, that is the failure. -/
theorem failure_of_lacksSource (h : LacksSource read command) :
    (outcome command read terminal).exit = .failure := by
  obtain ⟨hgrammar, hread⟩ := h
  simp only [outcome, executed, hgrammar, hread]
  rfl

theorem text_outcome (command : Except UsageError Command) (read : ReadSource) (terminal : Bool) :
    (outcome command read terminal).text =
      traceText read command ++ (outcome command read terminal).answer := by
  rw [Outcome.text, trace_outcome]

/-- The error device is told something when the run lacks its source, and in no other case. -/
theorem textOn_err_ne_empty_iff :
    (outcome command read terminal).textOn .err ≠ "" ↔ LacksSource read command := by
  constructor
  · intro h
    exact channel_eq_err_iff.1
      (Decidable.not_not.1 fun hchannel => h (Outcome.textOn_other hchannel))
  · intro h
    rw [Outcome.textOn_self (channel_eq_err_iff.2 h), text_outcome, traceText_of_lacksSource h,
      String.empty_append]
    exact answer_ne_empty (failure_of_lacksSource h)

theorem textOn_out_of_lacksSource (h : LacksSource read command) :
    (outcome command read terminal).textOn .out = "" :=
  Outcome.textOn_other (by simp [channel_eq_err_iff.2 h])

theorem textOn_out_of_not_lacksSource (h : ¬ LacksSource read command) :
    (outcome command read terminal).textOn .out =
      traceText read command ++ (outcome command read terminal).answer := by
  rw [← text_outcome]
  refine Outcome.textOn_self ?_
  cases hchannel : (outcome command read terminal).channel with
  | out => rfl
  | err => exact absurd (channel_eq_err_iff.1 hchannel) h

end Run

open Run

/-- The exit and the devices of a run whose writes do not fail. It has status 0 when the command
line asks for something that is done and finds nothing wrong, and otherwise status 1. The error
device is written to exactly when there is no source to check, and then the output is not. Every
other failure is reported on the output, behind the trace. A run that succeeds without a trace is
silent. -/
theorem run_exit (args : List String) (read : ReadSource) (terminal : Bool) :
    ∃ exit O E,
      run args read terminal {} = (exit, { out := { contents := O }, err := { contents := E } }) ∧
      (exit.status = 0 ↔ Passes read (Command.ofArguments args)) ∧
      (¬ Passes read (Command.ofArguments args) → exit.status = 1) ∧
      (E ≠ .empty ↔ LacksSource read (Command.ofArguments args)) ∧
      (E ≠ .empty → O = .empty) ∧
      (exit.status = 1 → E = .empty →
        ∃ report, report ≠ "" ∧
          O = (traceText read (Command.ofArguments args) ++ report).toUTF8) ∧
      ∀ o, Command.ofArguments args = .ok (.run o) → exit.status = 0 →
        o.trace = false ∨ o.grammar.isSome → O = .empty ∧ E = .empty := by
  rw [run_eq_finished, Outcome.finished_unlimited]
  generalize Command.ofArguments args = command
  have hempty (s : String) : s.toUTF8 = .empty ↔ s = "" := String.toByteArray_inj (t := "")
  refine ⟨_, _, _, rfl, ?_⟩
  simp only [Exit.status_eq_zero_iff, Exit.status_eq_one_iff, hempty, ne_eq]
  refine ⟨outcome_success_iff, fun hnot => ?_, textOn_err_ne_empty_iff, fun herr => ?_,
    fun hfailure herr => ?_, fun o hcommand hsuccess htrace => ?_⟩
  · cases hexit : (outcome command read terminal).exit with
    | success => exact absurd (outcome_success_iff.1 hexit) hnot
    | failure => rfl
  · exact textOn_out_of_lacksSource (textOn_err_ne_empty_iff.1 herr)
  · have hsource := mt textOn_err_ne_empty_iff.2 (not_not_intro herr)
    exact ⟨_, answer_ne_empty hfailure, by rw [textOn_out_of_not_lacksSource hsource]⟩
  · subst hcommand
    have htext : (outcome (.ok (.run o)) read terminal).text = "" := by
      rw [text_outcome, traceText_eq_empty htrace, String.empty_append]
      exact answer_executed_eq_empty_iff.2 hsuccess
    unfold Outcome.textOn
    simp only [htext, ite_self, and_self]

end FrontEnd

-- SUMMARY: A run writes one text to one device, and its arguments and its file settle which text, which device and how it ends.
import FrontEnd.Run
import FrontEnd.Proofs.Output.Unfailing

/-!
# Outcomes of runs

Whatever a run is asked for, it writes to one of its two devices only, and what
it writes there is one text. So a run is told by that device, that text and how
it ends, and none of them depends on the devices: `perform_eq_session` says that
the run is the one write of its outcome.

The text has two parts. The trace comes first, where there is one, and behind it
comes what the run has to say: the answer to a question, or the report of what is
wrong. The second part is empty only when nothing is wrong (`answer_ne_empty`).
-/

namespace FrontEnd

-- ---------------------------------------------------------------------------
-- Sequences of writes to one device
-- ---------------------------------------------------------------------------

namespace Session

variable {α β : Type}

theorem out_bind (w : Write α) (f : α → Write β) :
    out (w >>= f) = (do let a ← out w; out (f a)) := by
  funext c
  cases h : w c.out <;> simp [out, bind, EStateM.bind, h]

end Session

namespace Run

-- ---------------------------------------------------------------------------
-- Outcomes
-- ---------------------------------------------------------------------------

/-- The devices of a run by name. -/
inductive Channel where
  | out
  | err
deriving DecidableEq, Repr

/-- Write to the device of this name. -/
def Channel.write {α : Type} : Channel → Write α → Session α
  | out => Session.out
  | err => Session.err

/-- What a run comes to as long as it can write. -/
structure Outcome where
  channel : Channel := .out
  trace : String := ""
  /-- What the run says behind the trace. -/
  answer : String
  exit : Exit
deriving DecidableEq, Repr

namespace Outcome

/-- All that is written. -/
def text (x : Outcome) : String :=
  x.trace ++ x.answer

/-- What is written to the device of this name. -/
def textOn (x : Outcome) (channel : Channel) : String :=
  if x.channel = channel then x.text else ""

theorem textOn_self {x : Outcome} {channel : Channel} (h : x.channel = channel) :
    x.textOn channel = x.text :=
  if_pos h

theorem textOn_other {x : Outcome} {channel : Channel} (h : x.channel ≠ channel) :
    x.textOn channel = "" :=
  if_neg h

def session (x : Outcome) : Session Exit :=
  x.channel.write do
    Write.put x.text
    return x.exit

/-- The outcome of a run that came to this problem, or to none. -/
def ofProblem? (channel : Channel) (trace : String) (p : Option Problem) (o : Options)
    (terminal : Bool) : Outcome where
  channel
  trace
  answer := Problem.closingText p o terminal
  exit := .ofProblem? p

end Outcome

/-- The outcome of a run with the given options. -/
def executed (o : Options) (read : ReadSource) (terminal : Bool) : Outcome :=
  match o.grammar with
  | some g => .ofProblem? .out "" (g.problem? o.input) o terminal
  | none =>
    match read o.input with
    | .error cause => .ofProblem? .err "" (some (.unreadable ⟨o.input, cause⟩)) o terminal
    | .ok source =>
      .ofProblem? .out (Source.traceText source o) (Source.problem? o.maxDepth source) o terminal

/-- The outcome of a command line. -/
def outcome (command : Except UsageError Command) (read : ReadSource) (terminal : Bool) : Outcome :=
  match command with
  | .ok .help => { answer := usage, exit := .success }
  | .ok (.explain code) =>
    { answer := code.text ++ ": " ++ code.description ++ "\n", exit := .success }
  | .ok (.run o) => executed o read terminal
  | .error e => { answer := "error: " ++ e.message ++ "\n" ++ usage, exit := .failure }

theorem session_answer (answer : String) (exit : Exit) :
    Outcome.session { answer, exit } = (do Session.out (Write.put answer); return exit) := by
  rw [Outcome.session, Outcome.text, String.empty_append, Channel.write, Session.out_bind]
  rfl

theorem session_ofProblem? (channel : Channel) (p : Option Problem) (o : Options)
    (terminal : Bool) :
    (Outcome.ofProblem? channel "" p o terminal).session =
      channel.write (conclude p o terminal) := by
  rw [conclude_eq_put, Outcome.session, Outcome.text, Outcome.ofProblem?, String.empty_append]

/-- The check of a source traces it and comes to its problem. -/
theorem session_checking (source : String) (o : Options) (terminal : Bool) :
    (Outcome.ofProblem? .out (Source.traceText source o) (Source.problem? o.maxDepth source) o
      terminal).session = Session.out (checkSource source o terminal) := by
  simp only [checkSource_eq_put, Source.checkText, Outcome.session, Outcome.text,
    Outcome.ofProblem?, Channel.write]

theorem execute_eq_session (o : Options) (read : ReadSource) (terminal : Bool) :
    execute o read terminal = (executed o read terminal).session := by
  unfold execute executed
  cases o.grammar with
  | some g => exact (session_ofProblem? .out _ _ _).symm
  | none =>
    cases read o.input with
    | error cause => exact (session_ofProblem? .err _ _ _).symm
    | ok source => exact (session_checking source o terminal).symm

/-- A run is the one write of its outcome. -/
theorem perform_eq_session (command : Except UsageError Command) (read : ReadSource)
    (terminal : Bool) :
    perform command read terminal = (outcome command read terminal).session := by
  cases command with
  | error e =>
    rw [outcome, session_answer, Write.put_append, Session.out_bind, bind_assoc]
    rfl
  | ok command =>
    cases command with
    | help => exact (session_answer usage .success).symm
    | explain code => exact (session_answer _ .success).symm
    | run o => exact execute_eq_session o read terminal

/-- How a run with this outcome ends on a console, and the console that it leaves. -/
def Outcome.finished (x : Outcome) (c : Console) : Exit × Console :=
  match x.session c with
  | .ok exit c => (exit, c)
  | .error e c => (.failure, tellFailure e c)

/-- The whole program is told by the outcome too. -/
theorem run_eq_finished (args : List String) (read : ReadSource) (terminal : Bool) (c : Console) :
    run args read terminal c = (outcome (Command.ofArguments args) read terminal).finished c := by
  rw [run, perform_eq_session]
  rfl

/-- Where no write fails, the run ends as its outcome says, with the whole text written. -/
theorem Outcome.finished_unlimited (x : Outcome) :
    x.finished {} = (x.exit, {
      out := { contents := (x.textOn .out).toUTF8 }
      err := { contents := (x.textOn .err).toUTF8 } }) := by
  have hendless : Device.Endless {} := rfl
  have hput := Write.put_return_of_endless x.text x.exit hendless
  rw [ByteArray.empty_append] at hput
  unfold Outcome.finished Outcome.session Outcome.textOn
  cases x.channel with
  | out =>
    simp only [Channel.write, Session.out, hput]
    rfl
  | err =>
    simp only [Channel.write, Session.err, hput]
    rfl

end Run

end FrontEnd

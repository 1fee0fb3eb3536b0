-- SUMMARY: On a device that takes any number of bytes no write fails, and neither does anything made of writes.
import FrontEnd.Proofs.Output.Written

/-!
# Unfailing writes

What a run writes is one text, as good as written at once. On a device without a
limit that does not fail, and the device stays without one. So there a check
comes to its end, and how it ends depends on the source alone.
-/

namespace FrontEnd

/-- The device takes any number of bytes. -/
def Device.Endless (d : Device) : Prop :=
  d.room = none

namespace Write

variable {d : Device}

theorem put_of_endless (text : String) (hd : d.Endless) :
    put text d = .ok () { d with contents := d.contents ++ text.toUTF8 } := by
  have hroom : d.room = none := hd
  simp [put, putBytes, hroom]

theorem put_return_of_endless {α : Type} (text : String) (a : α) (hd : d.Endless) :
    (do put text; return a : Write α) d =
      .ok a { d with contents := d.contents ++ text.toUTF8 } := by
  simp only [bind, EStateM.bind, put_of_endless text hd]
  rfl

end Write

/-- From a good state the action succeeds and leaves a good one. -/
def Unfailing {σ α : Type} (good : σ → Prop) (m : EStateM WriteFailure σ α) : Prop :=
  ∀ s, good s → ∃ a s', m s = .ok a s' ∧ good s'

namespace JsonArray

/-- The array is on a device that takes any number of bytes. -/
def Endless (a : JsonArray) : Prop :=
  a.device.Endless

/-- An action that writes one text does not fail, whether or not the array is empty. -/
theorem Puts.unfailing {m : Action} (h : ∀ b, ∃ s c, Puts m b s c) : Unfailing Endless m := by
  rintro ⟨d, b⟩ hd
  obtain ⟨s, c, hputs⟩ := h b
  have hdevice := hputs.device d
  rw [Write.put_of_endless s hd] at hdevice
  cases hm : m ⟨d, b⟩ with
  | error e a => simp [hm, onDeviceAlone] at hdevice
  | ok _ a =>
    rw [hm] at hdevice
    have hkept : a.device = { d with contents := d.contents ++ s.toUTF8 } :=
      (EStateM.Result.ok.inj hdevice).2
    refine ⟨(), a, rfl, ?_⟩
    rw [Endless, hkept]
    exact hd

theorem unfailing_whole (ds : List Diagnostic) : Unfailing Endless (whole ds) :=
  Puts.unfailing fun b =>
    ⟨_, _, (puts_start b).bind ((puts_forM_add ds b).bind (puts_finish _))⟩

end JsonArray

/-- What is wrong with a source text, under a limit on nesting. -/
def Source.problem? (limit : Nat) (source : String) : Option Problem :=
  (Lexed.ofText (Source.completed source)).problem? limit

/-- A check reports this problem, behind the trace if there is one. -/
theorem checkSource_eq_conclude (source : String) (o : Options) (terminal : Bool) :
    checkSource source o terminal = (do
      if o.trace then
        Trace.write (Lexed.ofText (Source.completed source)).tokens
      conclude (Source.problem? o.maxDepth source) o terminal) :=
  rfl

/-- The check of a source comes to this problem: it writes the trace if there is one, reports the
problem and ends in failure. -/
def Reports (source : String) (o : Options) (terminal : Bool) (p : Problem) : Prop :=
  Source.problem? o.maxDepth source = some p ∧
    checkSource source o terminal = (do
      if o.trace then
        Trace.write (Lexed.ofText (Source.completed source)).tokens
      p.report o terminal
      return .failure)

theorem reports_of_problem? {source : String} {o : Options} {terminal : Bool} {p : Problem}
    (h : Source.problem? o.maxDepth source = some p) : Reports source o terminal p := by
  refine ⟨h, ?_⟩
  rw [checkSource_eq_conclude, h]
  rfl

/-- The trace that a check prints, unless it is turned off. -/
def Source.traceText (source : String) (o : Options) : String :=
  if o.trace then Trace.text (Lexed.ofText (completed source)).tokens else ""

/-- All that a check writes: the trace, and behind it the report of what is wrong. -/
def Source.checkText (source : String) (o : Options) (terminal : Bool) : String :=
  traceText source o ++ Problem.closingText (problem? o.maxDepth source) o terminal

theorem checkSource_eq_put (source : String) (o : Options) (terminal : Bool) :
    checkSource source o terminal = (do
      Write.put (Source.checkText source o terminal)
      return Exit.ofProblem? (Source.problem? o.maxDepth source)) := by
  rw [checkSource_eq_conclude, conclude_eq_put, Source.checkText, Source.traceText,
    Trace.write_eq_put]
  split
  · simp only [Write.put_append, bind_assoc]
  · rw [String.empty_append]

/-- Where no write fails, a source is checked to the end, and it passes when nothing is wrong with
it. -/
theorem checkSource_eq (source : String) (o : Options) (terminal : Bool) {d : Device}
    (hd : d.Endless) :
    ∃ d', checkSource source o terminal d =
      .ok (Exit.ofProblem? (Source.problem? o.maxDepth source)) d' := by
  rw [checkSource_eq_put]
  exact ⟨_, Write.put_return_of_endless _ _ hd⟩

/-- Where no write fails, a source passes exactly when nothing is wrong with it. -/
theorem checkSource_success_iff (source : String) (o : Options) (terminal : Bool) {d : Device}
    (hd : d.Endless) :
    (∃ d', checkSource source o terminal d = .ok .success d') ↔
      Source.problem? o.maxDepth source = none := by
  obtain ⟨d', hd'⟩ := checkSource_eq source o terminal hd
  rw [hd']
  cases Source.problem? o.maxDepth source <;> simp [Exit.ofProblem?]

end FrontEnd

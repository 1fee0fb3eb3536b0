-- SUMMARY: What a command line for a run amounts to: its first fault, or its one input with the last setting of each option.
import FrontEnd.Proofs.CommandLine.Arguments
import Mathlib.Logic.Relation

/-!
# Settings

Without a request for help or for a code, an argument sets an option of the run,
is bad, or is an input (`Argument.read_cases`). The first bad argument decides.
Where there is none, the settings are made from left to right, one over the
other, and what is left of them for each option is the last one
(`Options.SetBy`). Settings of different options can be made in either order, so
their arguments can change places.
-/

namespace FrontEnd

variable {arg text : String} {args : List String} {s t : Setting}

namespace Argument

-- ---------------------------------------------------------------------------
-- Single arguments
-- ---------------------------------------------------------------------------

/-- An argument that sets an option of the run. -/
inductive Sets : String → Setting → Prop where
  | trace : Sets "--trace" (.trace true)
  | noTrace : Sets "--no-trace" (.trace false)
  | value {x : Valued} {text : String} {s : Setting} (h : x.Takes text s) : Sets (x.key ++ text) s

theorem Valued.Takes.read_eq {x : Valued} (h : x.Takes text s) : x.read text = .set s := by
  obtain ⟨t, ht, hread⟩ | ⟨hnone, -⟩ := x.read_cases text
  · rw [hread, (ht s).1 h]
  · exact absurd h (hnone s)

theorem Sets.read_eq (h : Sets arg s) : read arg = .set s := by
  cases h with
  | trace => rfl
  | noTrace => rfl
  | @value x text _ h => exact (read_keyed x.mem_keys text).trans h.read_eq

theorem looksLikeOption_append (h : looksLikeOption arg = true) (text : String) :
    looksLikeOption (arg ++ text) = true := by
  simp only [looksLikeOption, Bool.and_eq_true, decide_eq_true_eq, bne_iff_ne] at h ⊢
  obtain ⟨cs, hcs⟩ := List.head?_eq_some_iff.1 h.1
  refine ⟨by simp [hcs], fun heq => h.2 ?_⟩
  have hlist := congrArg String.toList heq
  have hdash : ("-" : String).toList = ['-'] := rfl
  rw [String.toList_append, hcs, hdash, List.cons_append] at hlist
  obtain ⟨rfl, -⟩ := List.append_eq_nil_iff.1 (List.cons.inj hlist).2
  rw [← String.toList_inj, hcs, hdash]

/-- What is known has the form of an option. -/
theorem looksLikeOption_of_known (h : Known arg) : looksLikeOption arg = true := by
  have hflags : ∀ flag ∈ flags, looksLikeOption flag.1 = true := by decide
  have hkeys : ∀ option ∈ keys, looksLikeOption option.1 = true := by decide
  obtain ⟨flag, hflag, rfl⟩ | ⟨option, hoption, text, rfl⟩ := h
  · exact hflags flag hflag
  · exact looksLikeOption_append (hkeys option hoption) text

theorem read_of_input (h : looksLikeOption arg = false) : read arg = .input arg := by
  have hknown : ¬ Known arg := fun hknown => by simp [looksLikeOption_of_known hknown] at h
  rw [read_of_not_known hknown, h, if_neg Bool.false_ne_true]

theorem Valued.sets_or_bad (x : Valued) (text : String) :
    (∃ s, Sets (x.key ++ text) s) ∨ ∃ e, Bad (x.key ++ text) e := by
  obtain ⟨s, hs, -⟩ | ⟨hnone, -⟩ := x.read_cases text
  · exact .inl ⟨s, .value ((hs s).2 rfl)⟩
  · exact .inr ⟨_, .value hnone⟩

/-- Where an argument asks for nothing else than a run, it sets an option of it, is bad, or is an
input. -/
theorem read_cases (h : ∀ x, ¬ Asks arg x) :
    (∃ s, Sets arg s) ∨ (∃ e, Bad arg e) ∨ looksLikeOption arg = false := by
  by_cases hknown : Known arg
  · obtain ⟨flag, hflag, rfl⟩ | ⟨option, hoption, text, rfl⟩ := hknown
    · simp only [flags, List.mem_cons, List.not_mem_nil, or_false] at hflag
      obtain rfl | rfl | rfl | rfl := hflag
      · exact absurd (.help (.inl rfl)) (h _)
      · exact absurd (.help (.inr rfl)) (h _)
      · exact .inl ⟨_, .trace⟩
      · exact .inl ⟨_, .noTrace⟩
    · simp only [keys, List.mem_cons, List.not_mem_nil, or_false] at hoption
      obtain rfl | rfl | rfl | rfl | rfl := hoption
      · have hbegins : "--explain=".toList <+: ("--explain=" ++ text).toList := by
          rw [String.toList_append]
          exact List.prefix_append _ _
        obtain ⟨x, hx⟩ := exists_asks_iff.2 (.inr (.inr hbegins))
        exact absurd hx (h x)
      · exact (Valued.color.sets_or_bad text).imp_right .inl
      · exact (Valued.errorFormat.sets_or_bad text).imp_right .inl
      · exact (Valued.maxDepth.sets_or_bad text).imp_right .inl
      · exact (Valued.grammar.sets_or_bad text).imp_right .inl
  · cases hoption : looksLikeOption arg with
    | true => exact .inr (.inl ⟨_, .unknown hknown hoption⟩)
    | false => exact .inr (.inr rfl)

theorem read_eq_set_iff : read arg = .set s ↔ Sets arg s := by
  refine ⟨fun h => ?_, Sets.read_eq⟩
  have hask (x) (hx : Asks arg x) : False := by cases h.symm.trans hx.read_eq
  obtain ⟨t, ht⟩ | ⟨e, he⟩ | hinput := read_cases hask
  · cases h.symm.trans ht.read_eq
    exact ht
  · cases h.symm.trans he.read_eq
  · cases h.symm.trans (read_of_input hinput)

theorem Sets.looksLikeOption_eq_true (h : Sets arg s) : looksLikeOption arg = true := by
  refine eq_true_of_ne_false fun hinput => ?_
  cases h.read_eq.symm.trans (read_of_input hinput)

end Argument

open Argument

-- ---------------------------------------------------------------------------
-- The last setting
-- ---------------------------------------------------------------------------

/-- The value to which the last argument that sets an option sets it, where one does. -/
inductive LastSet {α : Type} (args : List String) (make : α → Setting) : Option α → Prop where
  | none (h : ∀ arg ∈ args, ∀ v, ¬ Sets arg (make v)) : LastSet args make none
  | some {arg : String} {v : α} (front back : List String) (hargs : args = front ++ arg :: back)
      (hset : Sets arg (make v)) (hback : ∀ b ∈ back, ∀ w, ¬ Sets b (make w)) :
      LastSet args make (some v)

namespace Options

/-- The options behind an argument. -/
def settle (o : Options) (arg : String) : Options :=
  match Argument.read arg with
  | .set s => s.apply o
  | _ => o

theorem settle_of_sets (h : Sets arg s) (o : Options) : o.settle arg = s.apply o := by
  rw [settle, h.read_eq]

theorem settle_of_input (h : looksLikeOption arg = false) (o : Options) : o.settle arg = o := by
  rw [settle, read_of_input h]

/-- The settings that `make` gives set one field, to what `put` gives, and no other settings do. -/
structure SetsField {α β : Type} (make : α → Setting) (field : Options → β) (put : α → β) :
    Prop where
  same : ∀ v o, field ((make v).apply o) = put v
  other : ∀ s o, (∀ v, s ≠ make v) → field (s.apply o) = field o

namespace SetsField

variable {α β : Type} {make : α → Setting} {field : Options → β} {put : α → β}

theorem settle_cases (h : SetsField make field put) (arg : String) (o : Options) :
    (∃ v, Sets arg (make v) ∧ field (o.settle arg) = put v) ∨
      (∀ v, ¬ Sets arg (make v)) ∧ field (o.settle arg) = field o := by
  by_cases hset : ∃ v, Sets arg (make v)
  · obtain ⟨v, hv⟩ := hset
    exact .inl ⟨v, hv, by rw [settle_of_sets hv, h.same]⟩
  · refine .inr ⟨not_exists.1 hset, ?_⟩
    unfold settle
    split
    · next s hread =>
      refine h.other s o fun v hv => hset ⟨v, ?_⟩
      exact read_eq_set_iff.1 (hv ▸ hread)
    · rfl

/-- Of the settings that are made one over the other, the last one of a field is left. -/
theorem foldl_settle (h : SetsField make field put) (args : List String) (o : Options) :
    ∃ v, LastSet args make v ∧ field (args.foldl settle o) = (v.map put).getD (field o) := by
  induction args generalizing o with
  | nil => exact ⟨none, .none (by simp), rfl⟩
  | cons arg args ih =>
    obtain ⟨v, hlast, hfield⟩ := ih (o.settle arg)
    rw [List.foldl_cons, hfield]
    cases hlast with
    | @some b v front back hargs hset hback =>
      exact ⟨some v, .some (arg :: front) back (by rw [hargs, List.cons_append]) hset hback, rfl⟩
    | none hnone =>
      obtain ⟨v, hset, hput⟩ | ⟨hnot, hsame⟩ := h.settle_cases arg o
      · exact ⟨some v, .some [] args rfl hset hnone, hput⟩
      · exact ⟨none, .none (List.forall_mem_cons.2 ⟨hnot, hnone⟩), hsame⟩

end SetsField

theorem setsField_trace : SetsField .trace Options.trace id where
  same _ _ := rfl
  other s _ h := by
    cases s with
    | trace on => exact absurd rfl (h on)
    | _ => rfl

theorem setsField_color : SetsField .color Options.color id where
  same _ _ := rfl
  other s _ h := by
    cases s with
    | color mode => exact absurd rfl (h mode)
    | _ => rfl

theorem setsField_errorFormat : SetsField .errorFormat Options.errorFormat id where
  same _ _ := rfl
  other s _ h := by
    cases s with
    | errorFormat format => exact absurd rfl (h format)
    | _ => rfl

theorem setsField_maxDepth : SetsField .maxDepth Options.maxDepth id where
  same _ _ := rfl
  other s _ h := by
    cases s with
    | maxDepth limit => exact absurd rfl (h limit)
    | _ => rfl

theorem setsField_grammar : SetsField .grammar Options.grammar some where
  same _ _ := rfl
  other s _ h := by
    cases s with
    | grammar g => exact absurd rfl (h g)
    | _ => rfl

/-- The options of a run of `input`: each is what the last argument that sets it sets it to, or else
its default. -/
structure SetBy (o : Options) (args : List String) (input : String) : Prop where
  input : o.input = input
  trace : ∃ on, LastSet args .trace on ∧ o.trace = on.getD true
  color : ∃ mode, LastSet args .color mode ∧ o.color = mode.getD .auto
  errorFormat : ∃ format, LastSet args .errorFormat format ∧ o.errorFormat = format.getD .human
  maxDepth : ∃ limit, LastSet args .maxDepth limit ∧ o.maxDepth = limit.getD Program.defaultLimit
  grammar : LastSet args .grammar o.grammar

theorem setBy_foldl (args : List String) (input : String) :
    SetBy { args.foldl settle { input := "" } with input } args input where
  input := rfl
  trace := by simpa using setsField_trace.foldl_settle args { input := "" }
  color := by simpa using setsField_color.foldl_settle args { input := "" }
  errorFormat := by simpa using setsField_errorFormat.foldl_settle args { input := "" }
  maxDepth := by simpa using setsField_maxDepth.foldl_settle args { input := "" }
  grammar := by
    obtain ⟨g, hlast, hfield⟩ := setsField_grammar.foldl_settle args { input := "" }
    have hg : (g.map some).getD none = g := by cases g <;> rfl
    rwa [hfield, hg]

end Options

-- ---------------------------------------------------------------------------
-- Arguments that change places
-- ---------------------------------------------------------------------------

/-- What a setting sets. -/
inductive Setting.Field where
  | trace
  | color
  | errorFormat
  | maxDepth
  | grammar

def Setting.field : Setting → Setting.Field
  | trace _ => .trace
  | color _ => .color
  | errorFormat _ => .errorFormat
  | maxDepth _ => .maxDepth
  | grammar _ => .grammar

/-- An argument that sets an option changes places with a neighbour that does not set the same
one. -/
inductive Swapped : List String → List String → Prop where
  | intro {a b : String} {s : Setting} (front back : List String) (ha : Sets a s)
      (hb : ∀ t, Sets b t → s.field ≠ t.field) :
      Swapped (front ++ a :: b :: back) (front ++ b :: a :: back)

theorem Setting.apply_comm (h : s.field ≠ t.field) (o : Options) :
    t.apply (s.apply o) = s.apply (t.apply o) := by
  cases s <;> cases t <;> first | rfl | exact absurd rfl h

namespace Command

theorem read_of_swapped {args' : List String} (h : Swapped args args') (o : Options)
    (inputs : List String) : Command.read o inputs args' = Command.read o inputs args := by
  obtain @⟨a, b, s, front, back, ha, hb⟩ := h
  induction front generalizing o inputs with
  | nil =>
    simp only [List.nil_append, Command.read, ha.read_eq]
    cases hread : Argument.read b with
    | stop x => rfl
    | set t =>
      have hfield := hb t (read_eq_set_iff.1 hread)
      exact congrArg (Command.read · inputs back) (Setting.apply_comm hfield o).symm
    | input text => rfl
  | cons c front ih =>
    simp only [List.cons_append, Command.read]
    cases Argument.read c with
    | stop x => rfl
    | set t => exact ih _ _
    | input text => exact ih _ _

theorem ofArguments_of_eqvGen {args' : List String} (h : Relation.EqvGen Swapped args args') :
    ofArguments args' = ofArguments args := by
  induction h with
  | rel _ _ h => exact read_of_swapped h _ _
  | refl => rfl
  | symm _ _ _ ih => exact ih.symm
  | trans _ _ _ _ _ ih ih' => exact ih'.trans ih

-- ---------------------------------------------------------------------------
-- Command lines for a run
-- ---------------------------------------------------------------------------

/-- Without a bad argument the settings are made and the inputs collected. -/
theorem read_eq_withInputs (h : ∀ arg ∈ args, (∃ s, Sets arg s) ∨ looksLikeOption arg = false)
    (o : Options) (inputs : List String) :
    Command.read o inputs args = (args.foldl Options.settle o).withInputs
      (inputs.reverse ++ args.filter (!looksLikeOption ·)) := by
  induction args generalizing o inputs with
  | nil => simp [Command.read]
  | cons arg args ih =>
    obtain ⟨harg, hargs⟩ := List.forall_mem_cons.1 h
    obtain ⟨s, hs⟩ | hinput := harg
    · simp only [Command.read, hs.read_eq, ih hargs, List.foldl_cons, Options.settle_of_sets hs]
      rw [List.filter_cons_of_neg (by simp [hs.looksLikeOption_eq_true])]
    · simp only [Command.read, read_of_input hinput, ih hargs, List.foldl_cons,
        Options.settle_of_input hinput]
      rw [List.filter_cons_of_pos (by simp [hinput]), List.reverse_cons, List.append_assoc,
        List.singleton_append]

/-- A command line that asks for nothing else than a run is answered with its first bad argument.
Without one it needs exactly one input, and runs it with the last setting of each option. Arguments
that set different options can change places. -/
theorem ofArguments_of_not_asks (args : List String)
    (h : ∀ arg ∈ args, arg ≠ "-h" ∧ arg ≠ "--help" ∧ ¬ "--explain=".toList <+: arg.toList) :
    ((∃ arg ∈ args, ∃ e, Bad arg e) →
      ∃ front bad back e, args = front ++ bad :: back ∧ (∀ b ∈ front, ∀ e, ¬ Bad b e) ∧
        Bad bad e ∧ ofArguments args = .error e) ∧
    ((∀ arg ∈ args, ∀ e, ¬ Bad arg e) →
      (args.filter (!looksLikeOption ·) = [] → ofArguments args = .error .missingInput) ∧
      (2 ≤ (args.filter (!looksLikeOption ·)).length →
        ofArguments args = .error (.tooManyInputs (args.filter (!looksLikeOption ·)).length)) ∧
      ∀ input, args.filter (!looksLikeOption ·) = [input] →
        ∃ o, ofArguments args = .ok (.run o) ∧ o.SetBy args input) ∧
    ∀ args', Relation.EqvGen Swapped args args' → ofArguments args' = ofArguments args := by
  have hasks : ∀ arg ∈ args, ∀ x, ¬ Asks arg x := fun arg harg x hx => by
    obtain ⟨hshort, hlong, hexplain⟩ := h arg harg
    exact (exists_asks_iff.1 ⟨x, hx⟩).elim hshort (·.elim hlong hexplain)
  refine ⟨fun ⟨arg, harg, e, hbad⟩ => ?_, fun hgood => ?_, fun _ => ofArguments_of_eqvGen⟩
  · obtain ⟨front, bad, back, e, rfl, hfront, hbad⟩ := exists_first_bad ⟨arg, harg, e, hbad⟩
    have hfrontAsks : ∀ b ∈ front, ∀ x, ¬ Asks b x := fun b hb =>
      hasks b (List.mem_append_left _ hb)
    exact ⟨front, bad, back, e, rfl, hfront, hbad,
      read_of_stop (read_ne_stop hfrontAsks hfront) hbad.read_eq _ _⟩
  · have hplain : ∀ arg ∈ args, (∃ s, Sets arg s) ∨ looksLikeOption arg = false := by
      intro arg harg
      obtain hset | ⟨e, hbad⟩ | hinput := read_cases (hasks arg harg)
      · exact .inl hset
      · exact absurd hbad (hgood arg harg e)
      · exact .inr hinput
    have hread : ofArguments args = _ := read_eq_withInputs hplain { input := "" } []
    rw [List.reverse_nil, List.nil_append] at hread
    rw [hread]
    generalize args.filter (!looksLikeOption ·) = inputs
    refine ⟨?_, fun hmany => ?_, ?_⟩
    · rintro rfl
      rfl
    · obtain ⟨x, y, rest, rfl⟩ : ∃ x y rest, inputs = x :: y :: rest := by
        match inputs, hmany with
        | x :: y :: rest, _ => exact ⟨x, y, rest, rfl⟩
      rfl
    · rintro input rfl
      exact ⟨_, rfl, Options.setBy_foldl args input⟩

/-- The last color counts, and the limit may have a plus sign and zeros in front. -/
theorem ofArguments_of_not_asks_colors :
    (∀ arg ∈ ["--color=never", "a", "--max-depth=+007", "--color=always"],
      arg ≠ "-h" ∧ arg ≠ "--help" ∧ ¬ "--explain=".toList <+: arg.toList) ∧
    (∀ arg ∈ ["--color=never", "a", "--max-depth=+007", "--color=always"], ∀ e, ¬ Bad arg e) ∧
    ∃ o, ofArguments ["--color=never", "a", "--max-depth=+007", "--color=always"] = .ok (.run o) ∧
      o.SetBy ["--color=never", "a", "--max-depth=+007", "--color=always"] "a" ∧
      o.color = .always ∧ o.maxDepth = 7 := by
  have hasks : ∀ arg ∈ ["--color=never", "a", "--max-depth=+007", "--color=always"],
      arg ≠ "-h" ∧ arg ≠ "--help" ∧ ¬ "--explain=".toList <+: arg.toList := by decide
  have hgood : ∀ arg ∈ ["--color=never", "a", "--max-depth=+007", "--color=always"],
      ∀ e, ¬ Bad arg e := by
    intro arg harg e hbad
    have hread := hbad.read_eq
    simp only [List.mem_cons, List.not_mem_nil, or_false] at harg
    obtain rfl | rfl | rfl | rfl := harg <;> cases hread
  have hrun := (ofArguments_of_not_asks _ hasks).2.1 hgood
  obtain ⟨o, ho, hset⟩ := hrun.2.2 "a" (by decide)
  have hresult : ofArguments ["--color=never", "a", "--max-depth=+007", "--color=always"] =
      .ok (.run { input := "a", color := .always, maxDepth := 7 }) := by rfl
  cases ho.symm.trans hresult
  exact ⟨hasks, hgood, _, ho, hset, rfl, rfl⟩

end Command

end FrontEnd

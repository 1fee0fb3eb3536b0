-- SUMMARY: The forms of arguments, and the first one that settles a command line.
import FrontEnd.Proofs.CommandLine.Values

/-!
# Arguments that settle a command line

Reading an argument looks it up as a flag, then tries the keys of the options
with a value, then looks at its first character. The order of these attempts
does not matter, because no argument has two forms: no key starts another one
and no flag starts with a key. So what an argument says depends on its form
alone (`Argument.Form`).

There are two reasons for an argument to settle the whole command line. It asks
for help or for the description of a code (`Argument.Asks`), or it is bad
(`Argument.Bad`). Arguments are read from left to right and the first one with a
reason decides. So what is asked for is answered whatever comes after, but of what
comes before nothing may be bad.
-/

namespace FrontEnd

variable {arg key text : String} {a : Argument} {answer : Except UsageError Command}
variable {before after : List String}

-- ---------------------------------------------------------------------------
-- Forms
-- ---------------------------------------------------------------------------

theorem Code.ofText?_eq_some_iff {code : Code} :
    ofText? text = some code ↔ code.text = text.toUpper := by
  refine ⟨text_of_ofText?, fun h => ?_⟩
  unfold ofText?
  rw [← h]
  cases code <;> decide

namespace Argument

theorem valueOf?_eq_some_iff : valueOf? key arg = some text ↔ arg = key ++ text := by
  rw [valueOf?, ← String.toList_inj, String.toList_append]
  constructor
  · intro h
    split at h
    · next hstart =>
      obtain ⟨rest, hrest⟩ := List.isPrefixOf_iff_prefix.1 hstart
      obtain rfl := Option.some.inj h
      rw [← hrest, List.drop_left, String.toList_ofList]
    · cases h
  · intro h
    simp [h]

/-- An argument with the form of a flag or of an option with a value. -/
def Known (arg : String) : Prop :=
  (∃ flag ∈ flags, arg = flag.1) ∨ ∃ option ∈ keys, ∃ text, arg = option.1 ++ text

/-- What an argument says, by its form. -/
inductive Form : String → Argument → Prop where
  | flag {arg : String} {a : Argument} (h : (arg, a) ∈ flags) : Form arg a
  | keyed {key : String} {read : String → Argument} (h : (key, read) ∈ keys) (text : String) :
      Form (key ++ text) (read text)
  | unknown {arg : String} (h : ¬ Known arg) (hoption : looksLikeOption arg = true) :
      Form arg (.stop (.error (.unknownOption arg)))
  | input {arg : String} (h : ¬ Known arg) (hinput : looksLikeOption arg = false) :
      Form arg (.input arg)

/-- No key starts another one. -/
theorem keys_apart :
    keys.Pairwise fun x y => ¬ x.1.toList <+: y.1.toList ∧ ¬ y.1.toList <+: x.1.toList := by
  decide

/-- No key starts a flag. -/
theorem flags_apart : ∀ flag ∈ flags, ∀ option ∈ keys, ¬ option.1.toList <+: flag.1.toList := by
  decide

theorem lookup_flags (h : (arg, a) ∈ flags) : flags.lookup arg = some a := by
  simp only [flags, List.mem_cons, Prod.mk.injEq, List.not_mem_nil, or_false] at h
  obtain ⟨rfl, rfl⟩ | ⟨rfl, rfl⟩ | ⟨rfl, rfl⟩ | ⟨rfl, rfl⟩ := h <;> rfl

theorem lookup_flags_eq_none (h : ∀ flag ∈ flags, arg ≠ flag.1) : flags.lookup arg = none := by
  rw [List.lookup_eq_none_iff]
  exact fun flag hflag => by simpa using h flag hflag

/-- Of all keys an argument is tried with, only the one that it starts with has a value in it. -/
theorem findSome?_keys {read : String → Argument} (h : (key, read) ∈ keys) (text : String) :
    (keys.findSome? fun (k, read) => (valueOf? k (key ++ text)).map read) = some (read text) := by
  obtain ⟨front, back, hkeys⟩ := List.append_of_mem h
  refine List.findSome?_eq_some_iff.2 ⟨front, _, back, hkeys, ?_, fun x hx => ?_⟩
  · simp [valueOf?_eq_some_iff.2 rfl]
  · have hapart := keys_apart
    rw [hkeys, List.pairwise_append] at hapart
    obtain ⟨hxkey, hkeyx⟩ := hapart.2.2 x hx _ (.head _)
    cases hvalue : valueOf? x.1 (key ++ text) with
    | none => simp [hvalue]
    | some value =>
      have hlist := congrArg String.toList (valueOf?_eq_some_iff.1 hvalue)
      rw [String.toList_append, String.toList_append] at hlist
      obtain hprefix | hprefix :=
        List.prefix_or_prefix_of_prefix ⟨_, hlist⟩ (List.prefix_append _ _)
      · exact absurd hprefix hkeyx
      · exact absurd hprefix hxkey

theorem read_of_not_known (h : ¬ Known arg) :
    read arg = if looksLikeOption arg then .stop (.error (.unknownOption arg)) else .input arg := by
  have hflags : flags.lookup arg = none :=
    lookup_flags_eq_none fun flag hflag heq => h (.inl ⟨flag, hflag, heq⟩)
  have hkeys : (keys.findSome? fun (key, read) => (valueOf? key arg).map read) = none := by
    refine List.findSome?_eq_none_iff.2 fun option hoption => ?_
    rw [Option.map_eq_none_iff]
    refine Option.eq_none_iff_forall_ne_some.2 fun text htext => ?_
    exact h (.inr ⟨option, hoption, text, valueOf?_eq_some_iff.1 htext⟩)
  simp only [read, hflags, hkeys]

theorem Form.read_eq (h : Form arg a) : read arg = a := by
  cases h with
  | flag h => simp only [read, lookup_flags h]
  | @keyed key value h text =>
    have hflags : flags.lookup (key ++ text) = none := lookup_flags_eq_none fun flag hflag heq => by
      refine flags_apart flag hflag _ h ?_
      rw [← heq, String.toList_append]
      exact List.prefix_append _ _
    simp only [read, hflags, findSome?_keys h]
  | unknown h hoption => rw [read_of_not_known h, if_pos hoption]
  | input h hinput => rw [read_of_not_known h, hinput, if_neg Bool.false_ne_true]

theorem read_keyed {read : String → Argument} (h : (key, read) ∈ keys) (text : String) :
    Argument.read (key ++ text) = read text :=
  (Form.keyed h text).read_eq

theorem read_explain (text : String) : read ("--explain=" ++ text) = explain (readCode text) :=
  read_keyed (List.Mem.head _) text

/-- An argument says what its form says, and nothing else. -/
theorem read_eq_iff : read arg = a ↔ Form arg a := by
  refine ⟨?_, Form.read_eq⟩
  rintro rfl
  by_cases h : Known arg
  · obtain ⟨flag, hflag, rfl⟩ | ⟨option, hoption, text, rfl⟩ := h
    · have hform : Form flag.1 flag.2 := .flag hflag
      rwa [hform.read_eq]
    · have hform : Form (option.1 ++ text) (option.2 text) := .keyed hoption text
      rwa [hform.read_eq]
  · rw [read_of_not_known h]
    split
    · next hoption => exact .unknown h hoption
    · next hoption => exact .input h (by simpa using hoption)

-- ---------------------------------------------------------------------------
-- Reasons to stop
-- ---------------------------------------------------------------------------

/-- An argument that asks for something else than a run, with the answer to it. A code is described
where it is named in either letter case. -/
inductive Asks : String → Except UsageError Command → Prop where
  | help {arg : String} (h : arg = "-h" ∨ arg = "--help") : Asks arg (.ok .help)
  | explain {text : String} {code : Code} (h : code.text = text.toUpper) :
      Asks ("--explain=" ++ text) (.ok (.explain code))
  | unknownCode {text : String} (h : ∀ code : Code, code.text ≠ text.toUpper) :
      Asks ("--explain=" ++ text) (.error (.invalidValue (.code text)))

/-- A bad argument and its error: an option of the run with a value that it does not take, or what
has the form of an option and is none. -/
inductive Bad : String → UsageError → Prop where
  | value {x : Valued} {text : String} (h : ∀ s, ¬ x.Takes text s) :
      Bad (x.key ++ text) (.invalidValue (x.invalid text))
  | unknown {arg : String} (h : ¬ Known arg) (hoption : looksLikeOption arg = true) :
      Bad arg (.unknownOption arg)

theorem readCode_of_text {code : Code} (h : code.text = text.toUpper) :
    readCode text = .ok code := by
  rw [readCode, Code.ofText?_eq_some_iff.2 h]

theorem readCode_of_forall_ne (h : ∀ code : Code, code.text ≠ text.toUpper) :
    readCode text = .error (.code text) := by
  have hnone : Code.ofText? text = none :=
    Option.eq_none_iff_forall_ne_some.2 fun code hcode => h code (Code.ofText?_eq_some_iff.1 hcode)
  rw [readCode, hnone]

/-- A value that stops the reading is not taken. -/
theorem Valued.bad_of_read {x : Valued} (h : x.read text = .stop answer) :
    ∃ e, Bad (x.key ++ text) e ∧ answer = .error e := by
  obtain ⟨s, -, hread⟩ | ⟨hnone, hread⟩ := x.read_cases text
  · cases hread.symm.trans h
  · cases hread.symm.trans h
    exact ⟨_, .value hnone, rfl⟩

theorem asks_of_explain (h : explain (readCode text) = .stop answer) :
    Asks ("--explain=" ++ text) answer := by
  by_cases hcode : ∃ code : Code, code.text = text.toUpper
  · obtain ⟨code, hcode⟩ := hcode
    rw [readCode_of_text hcode] at h
    cases h
    exact .explain hcode
  · have hne : ∀ code : Code, code.text ≠ text.toUpper := fun code heq => hcode ⟨code, heq⟩
    rw [readCode_of_forall_ne hne] at h
    cases h
    exact .unknownCode hne

theorem Asks.read_eq (h : Asks arg answer) : read arg = .stop answer := by
  cases h with
  | help h => obtain rfl | rfl := h <;> rfl
  | @explain text code h => rw [read_explain, readCode_of_text h, Argument.explain]
  | @unknownCode text h => rw [read_explain, readCode_of_forall_ne h, Argument.explain]

/-- Whether an argument asks for something can be told from how it begins, whatever code it
names. -/
theorem exists_asks_iff :
    (∃ x, Asks arg x) ↔ arg = "-h" ∨ arg = "--help" ∨ "--explain=".toList <+: arg.toList := by
  constructor
  · rintro ⟨x, h⟩
    cases h with
    | help h => exact h.imp_right .inl
    | explain | unknownCode =>
      rw [String.toList_append]
      exact .inr (.inr (List.prefix_append _ _))
  · rintro (h | h | ⟨rest, hrest⟩)
    · exact ⟨_, .help (.inl h)⟩
    · exact ⟨_, .help (.inr h)⟩
    · have harg : arg = "--explain=" ++ .ofList rest := by
        simp [← String.toList_inj, ← hrest]
      rw [harg]
      by_cases hcode : ∃ code : Code, code.text = (String.ofList rest).toUpper
      · obtain ⟨code, hcode⟩ := hcode
        exact ⟨_, .explain hcode⟩
      · exact ⟨_, .unknownCode fun code heq => hcode ⟨code, heq⟩⟩

theorem Bad.read_eq {e : UsageError} (h : Bad arg e) : read arg = .stop (.error e) := by
  cases h with
  | @value x text h =>
    obtain ⟨t, ht, -⟩ | ⟨-, hread⟩ := x.read_cases text
    · exact absurd ((ht t).2 rfl) (h t)
    · exact (read_keyed x.mem_keys text).trans hread
  | unknown h hoption => rw [read_of_not_known h, if_pos hoption]

theorem Valued.invalid_ne_code (x : Valued) (text given : String) :
    x.invalid text ≠ .code given := by
  cases x <;> simp [invalid]

/-- The error of a bad argument is never the answer to something that was asked for. -/
theorem Bad.not_asks {e : UsageError} (h : Bad arg e) : ¬ Asks key (.error e) := by
  intro hask
  generalize hanswer : Except.error e = answer at hask
  cases hask with
  | help | explain => cases hanswer
  | @unknownCode given =>
    have herror : e = .invalidValue (.code given) := Except.error.inj hanswer
    cases h with
    | @value x text h => exact x.invalid_ne_code text given (UsageError.invalidValue.inj herror)
    | unknown => cases herror

/-- An argument stops the reading because of what it asks for or because it is bad. -/
theorem read_eq_stop_iff :
    read arg = .stop answer ↔ Asks arg answer ∨ ∃ e, Bad arg e ∧ answer = .error e := by
  constructor
  · intro h
    have hform := read_eq_iff.1 h
    generalize hstop : Argument.stop answer = a at hform
    cases hform with
    | flag hflag =>
      simp only [flags, List.mem_cons, Prod.mk.injEq, List.not_mem_nil, or_false] at hflag
      obtain ⟨rfl, rfl⟩ | ⟨rfl, rfl⟩ | ⟨rfl, rfl⟩ | ⟨rfl, rfl⟩ := hflag <;> cases hstop
      · exact .inl (.help (.inl rfl))
      · exact .inl (.help (.inr rfl))
    | @keyed key read hkey text =>
      simp only [keys, List.mem_cons, Prod.mk.injEq, List.not_mem_nil, or_false] at hkey
      obtain ⟨rfl, rfl⟩ | ⟨rfl, rfl⟩ | ⟨rfl, rfl⟩ | ⟨rfl, rfl⟩ | ⟨rfl, rfl⟩ := hkey
      · exact .inl (asks_of_explain hstop.symm)
      · exact .inr (Valued.bad_of_read (x := .color) hstop.symm)
      · exact .inr (Valued.bad_of_read (x := .errorFormat) hstop.symm)
      · exact .inr (Valued.bad_of_read (x := .maxDepth) hstop.symm)
      · exact .inr (Valued.bad_of_read (x := .grammar) hstop.symm)
    | unknown hknown hoption =>
      cases hstop
      exact .inr ⟨_, .unknown hknown hoption, rfl⟩
    | input hknown hinput => cases hstop
  · rintro (h | ⟨e, h, rfl⟩)
    · exact h.read_eq
    · exact h.read_eq

end Argument

-- ---------------------------------------------------------------------------
-- The first reason
-- ---------------------------------------------------------------------------

namespace Command

open Argument

/-- The first argument that stops the reading decides. -/
theorem read_of_stop (hbefore : ∀ b ∈ before, ∀ x, Argument.read b ≠ .stop x)
    (harg : Argument.read arg = .stop answer) (o : Options) (inputs : List String) :
    Command.read o inputs (before ++ arg :: after) = answer := by
  induction before generalizing o inputs with
  | nil => simp only [List.nil_append, Command.read, harg]
  | cons b bs ih =>
    obtain ⟨hb, hbs⟩ := List.forall_mem_cons.1 hbefore
    cases hread : Argument.read b with
    | stop x => exact absurd hread (hb x)
    | set setting => simp only [List.cons_append, Command.read, hread, ih hbs]
    | input text => simp only [List.cons_append, Command.read, hread, ih hbs]

/-- Up to the first argument that asks for something only a bad one stops the reading. -/
theorem read_ne_stop (hfirst : ∀ b ∈ before, ∀ x, ¬ Asks b x)
    (hgood : ∀ b ∈ before, ∀ e, ¬ Bad b e) : ∀ b ∈ before, ∀ x, Argument.read b ≠ .stop x := by
  intro b hb x hx
  obtain h | ⟨e, h, -⟩ := read_eq_stop_iff.1 hx
  · exact hfirst b hb x h
  · exact hgood b hb e h

theorem exists_first_bad (h : ∃ b ∈ before, ∃ e, Bad b e) :
    ∃ front bad back e, before = front ++ bad :: back ∧ (∀ b ∈ front, ∀ e, ¬ Bad b e) ∧
      Bad bad e := by
  induction before with
  | nil => simp at h
  | cons b bs ih =>
    by_cases hb : ∃ e, Bad b e
    · obtain ⟨e, he⟩ := hb
      exact ⟨[], b, bs, e, rfl, by simp, he⟩
    · have hbs : ∃ b ∈ bs, ∃ e, Bad b e := by simpa [hb] using h
      obtain ⟨front, bad, back, e, rfl, hfront, hbad⟩ := ih hbs
      exact ⟨b :: front, bad, back, e, rfl,
        List.forall_mem_cons.2 ⟨fun e he => hb ⟨e, he⟩, hfront⟩, hbad⟩

/-- What the first argument that asks for something asks for is the answer, provided that no
argument in front of it is bad. Where one is, the error of the first bad one is the answer. -/
theorem ofArguments_of_asks (hask : Asks arg answer) (hfirst : ∀ b ∈ before, ∀ x, ¬ Asks b x) :
    (ofArguments (before ++ arg :: after) = answer ↔ ∀ b ∈ before, ∀ e, ¬ Bad b e) ∧
    ∀ front bad back e, before = front ++ bad :: back → (∀ b ∈ front, ∀ e, ¬ Bad b e) →
      Bad bad e → ofArguments (before ++ arg :: after) = .error e := by
  have hfirstBad : ∀ front bad back e, before = front ++ bad :: back →
      (∀ b ∈ front, ∀ e, ¬ Bad b e) → Bad bad e →
        ofArguments (before ++ arg :: after) = .error e := by
    rintro front bad back e rfl hfront hbad
    rw [List.append_assoc, List.cons_append]
    exact read_of_stop (read_ne_stop (fun b hb => hfirst b (List.mem_append_left _ hb)) hfront)
      hbad.read_eq _ _
  refine ⟨⟨fun hanswer b hb e he => ?_, fun hgood => ?_⟩, hfirstBad⟩
  · obtain ⟨front, bad, back, e, hbefore, hfront, hbad⟩ := exists_first_bad ⟨b, hb, e, he⟩
    rw [hfirstBad front bad back e hbefore hfront hbad] at hanswer
    exact hbad.not_asks (hanswer ▸ hask)
  · exact read_of_stop (read_ne_stop hfirst hgood) hask.read_eq _ _

/-- A code is described although there are two inputs and an option that is not known. -/
theorem ofArguments_of_asks_explain :
    Asks "--explain=e0001" (.ok (.explain .invalidCharacter)) ∧
      (∀ b ∈ ["--no-trace", "a"], ∀ x, ¬ Asks b x) ∧
      ofArguments (["--no-trace", "a"] ++ "--explain=e0001" :: ["--verbose", "b"]) =
        .ok (.explain .invalidCharacter) := by
  have hask : Asks ("--explain=" ++ "e0001") (.ok (.explain .invalidCharacter)) :=
    .explain (by decide +kernel)
  have hfirst : ∀ b ∈ ["--no-trace", "a"], ∀ x, ¬ Asks b x := by
    have hbegins : ∀ b ∈ ["--no-trace", "a"],
        ¬ (b = "-h" ∨ b = "--help" ∨ "--explain=".toList <+: b.toList) := by decide
    exact fun b hb x hx => hbegins b hb (exists_asks_iff.1 ⟨x, hx⟩)
  have hflag : Argument.read "--no-trace" = .set (.trace false) := rfl
  have hinput : Argument.read "a" = .input "a" := rfl
  refine ⟨hask, hfirst, (ofArguments_of_asks hask hfirst).1.2 fun b hb e he => ?_⟩
  obtain rfl | rfl : b = "--no-trace" ∨ b = "a" := by simpa using hb
  · cases hflag.symm.trans he.read_eq
  · cases hinput.symm.trans he.read_eq

/-- A color that is not known is answered with its error although help is asked for behind it. -/
theorem ofArguments_fault_before_help :
    Asks "--help" (.ok .help) ∧ (∀ b ∈ ["--color=blue"], ∀ x, ¬ Asks b x) ∧
      ofArguments (["--color=blue"] ++ "--help" :: []) =
        .error (.invalidValue (.color "blue")) := by
  have hbegins : ¬ ("--color=blue" = "-h" ∨ "--color=blue" = "--help" ∨
      "--explain=".toList <+: "--color=blue".toList) := by decide
  refine ⟨.help (.inr rfl), fun b hb x hx => ?_, rfl⟩
  obtain rfl := List.mem_singleton.1 hb
  exact hbegins (exists_asks_iff.1 ⟨x, hx⟩)

end Command

end FrontEnd

-- SUMMARY: Recognition decides the languages of the character grammars and fails at the first character that leaves them.
import FrontEnd.CharGrammar.Recognition
import Mathlib.Order.Bounds.Defs

/-!
# The languages of the character grammars

Both languages are made of strings with one run in them, of `c` in the first
grammar and of `a` in the second. A run is over at the first other character, so
two strings with the same beginning agree on how long the run is as soon as it
is over (`run_isPrefix_run`). This says what may stand behind each beginning, and
that no string of a language goes on to be another one.

Reading is followed from left to right together with what was read so far, which
begins a string of the grammar all the time (`Reads`). Where reading fails, the
next character does not go on with that beginning, while the characters that the
label names do (`Misses`).
-/

namespace FrontEnd.CharGrammar

/-- The strings of a grammar. -/
def language : CharGrammar → Set (List Char)
  | abCd => {w | ∃ n, w = 'a' :: 'b' :: (List.replicate n 'c' ++ ['d'])}
  | anbC => {w | w = ['c'] ∨ ∃ n, w = List.replicate (n + 1) 'a' ++ ['c', 'b']}

/-- Whether some string of the grammar begins with `w`. -/
def Viable (g : CharGrammar) (w : List Char) : Prop :=
  ∃ v ∈ g.language, w <+: v

variable {g : CharGrammar} {v w : List Char} {c d x y : Char} {m n : Nat}

theorem Viable.of_isPrefix (h : g.Viable w) (hv : v <+: w) : g.Viable v := by
  obtain ⟨u, hu, hw⟩ := h
  exact ⟨u, hu, hv.trans hw⟩

theorem viable_abCd :
    abCd.Viable w ↔ ∃ n, w <+: 'a' :: 'b' :: (List.replicate n 'c' ++ ['d']) := by
  constructor
  · rintro ⟨_, ⟨n, rfl⟩, h⟩
    exact ⟨n, h⟩
  · rintro ⟨n, h⟩
    exact ⟨_, ⟨n, rfl⟩, h⟩

theorem viable_anbC :
    anbC.Viable w ↔ w <+: ['c'] ∨ ∃ n, w <+: List.replicate (n + 1) 'a' ++ ['c', 'b'] := by
  constructor
  · rintro ⟨_, rfl | ⟨n, rfl⟩, h⟩
    · exact .inl h
    · exact .inr ⟨n, h⟩
  · rintro (h | ⟨n, h⟩)
    · exact ⟨_, .inl rfl, h⟩
    · exact ⟨_, .inr ⟨n, rfl⟩, h⟩

-- ---------------------------------------------------------------------------
-- Runs
-- ---------------------------------------------------------------------------

/-- Two runs that are over are equally long where one begins the other, and end with the same
character. -/
theorem run_isPrefix_run (hx : x ≠ c) (hy : y ≠ c)
    (h : List.replicate m c ++ x :: v <+: List.replicate n c ++ y :: w) :
    m = n ∧ x = y ∧ v <+: w := by
  induction m generalizing n with
  | zero =>
    cases n with
    | zero => exact ⟨rfl, List.cons_prefix_cons.1 h⟩
    | succ n => exact absurd (List.cons_prefix_cons.1 h).1 hx
  | succ m ih =>
    cases n with
    | zero => exact absurd (List.cons_prefix_cons.1 h).1.symm hy
    | succ n =>
      obtain ⟨rfl, hrest⟩ := ih (List.cons_prefix_cons.1 h).2
      exact ⟨rfl, hrest⟩

-- ---------------------------------------------------------------------------
-- What may come next
-- ---------------------------------------------------------------------------

theorem viable_abCd_nil : abCd.Viable [d] ↔ d = 'a' := by
  simp [viable_abCd]

theorem viable_abCd_a : abCd.Viable ['a', d] ↔ d = 'b' := by
  simp [viable_abCd]

theorem viable_abCd_run (n : Nat) :
    abCd.Viable ('a' :: 'b' :: (List.replicate n 'c' ++ [d])) ↔ d = 'c' ∨ d = 'd' := by
  simp only [viable_abCd, List.prefix_cons_inj]
  constructor
  · rintro ⟨m, h⟩
    by_cases hd : d = 'c'
    · exact .inl hd
    · exact .inr (run_isPrefix_run hd (by decide) h).2.1
  · rintro (rfl | rfl)
    · exact ⟨n + 1, ['d'], by simp [List.replicate_succ']⟩
    · exact ⟨n, List.prefix_rfl⟩

theorem viable_anbC_nil : anbC.Viable [d] ↔ d = 'a' ∨ d = 'c' := by
  simp [viable_anbC, List.replicate_succ, or_comm]

theorem viable_anbC_run (n : Nat) :
    anbC.Viable (List.replicate (n + 1) 'a' ++ [d]) ↔ d = 'a' ∨ d = 'c' := by
  rw [viable_anbC]
  constructor
  · rintro (h | ⟨m, h⟩)
    · cases (List.cons_prefix_cons.1 h).1
    · by_cases hd : d = 'a'
      · exact .inl hd
      · exact .inr (run_isPrefix_run hd (by decide) h).2.1
  · rintro (rfl | rfl)
    · exact .inr ⟨n + 1, ['c', 'b'], by simp [List.replicate_succ']⟩
    · exact .inr ⟨n, ['b'], by simp⟩

theorem viable_anbC_closing (n : Nat) :
    anbC.Viable (List.replicate (n + 1) 'a' ++ ['c', d]) ↔ d = 'b' := by
  rw [viable_anbC]
  constructor
  · rintro (h | ⟨m, h⟩)
    · cases (List.cons_prefix_cons.1 h).1
    · obtain ⟨-, -, h⟩ := run_isPrefix_run (by decide) (by decide) h
      exact (List.cons_prefix_cons.1 h).1
  · rintro rfl
    exact .inr ⟨n, List.prefix_rfl⟩

/-- No string of a grammar begins another one. -/
theorem eq_of_isPrefix (hv : v ∈ g.language) (hw : w ∈ g.language) (h : v <+: w) : v = w := by
  cases g with
  | abCd =>
    obtain ⟨m, rfl⟩ := hv
    obtain ⟨n, rfl⟩ := hw
    obtain ⟨-, h⟩ := List.cons_prefix_cons.1 h
    obtain ⟨-, h⟩ := List.cons_prefix_cons.1 h
    obtain ⟨rfl, -⟩ := run_isPrefix_run (by decide) (by decide) h
    rfl
  | anbC =>
    obtain rfl | ⟨m, rfl⟩ := hv <;> obtain rfl | ⟨n, rfl⟩ := hw
    · rfl
    · cases (List.cons_prefix_cons.1 h).1
    · cases (List.cons_prefix_cons.1 h).1
    · rw [(run_isPrefix_run (by decide) (by decide) h).1]

/-- A text begins with at most one string of a grammar. -/
theorem append_inj_of_mem {cs ds : List Char} (hv : v ∈ g.language) (hw : w ∈ g.language)
    (h : v ++ cs = w ++ ds) : v = w ∧ cs = ds := by
  have hvw : v = w := by
    obtain hprefix | hprefix :=
      List.prefix_or_prefix_of_prefix ⟨cs, h⟩ (List.prefix_append w ds)
    · exact eq_of_isPrefix hv hw hprefix
    · exact (eq_of_isPrefix hw hv hprefix).symm
  subst hvw
  exact ⟨rfl, List.append_cancel_left h⟩

-- ---------------------------------------------------------------------------
-- Readings
-- ---------------------------------------------------------------------------

/-- The label that names some characters. -/
def label (names : List Char) : String :=
  " or ".intercalate (names.map Char.toString)

/-- The failure in front of `rest`, with the beginning `w` of a string behind it: the characters
that the label names go on with it, and the next one does not. -/
inductive Misses (g : CharGrammar) (w rest : List Char) : Mismatch → Prop where
  | intro (names : List Char) (hne : names ≠ []) (hnames : ∀ c ∈ names, g.Viable (w ++ [c]))
      (hnext : ∀ d ∈ rest.head?, ¬ g.Viable (w ++ [d])) :
      Misses g w rest (.expected (label names) rest.head? (.ofNat w.length))

/-- How a reading of a text ends that should pass over a string of the grammar. -/
def Reads (g : CharGrammar) (text : List Char) : Except Mismatch Remaining → Prop
  | .ok r => ∃ w ∈ g.language, text = w ++ r.chars ∧ r.offset = .ofNat w.length
  | .error e => ∃ w rest, text = w ++ rest ∧ g.Misses w rest e

variable {rest cs text : List Char} {e : Mismatch}

theorem ofNat_length_concat (w : List Char) (c : Char) :
    UInt64.ofNat (w ++ [c]).length = .ofNat w.length + 1 := by
  rw [List.length_append, UInt64.ofNat_add]
  rfl

/-- Where nothing but `c` may come next, it is expected, and the reading goes on behind it. -/
theorem reads_expect {next : Remaining → Except Mismatch Remaining} (hc : g.Viable (w ++ [c]))
    (hnext : ∀ d ∈ rest.head?, g.Viable (w ++ [d]) → d = c)
    (h : ∀ cs, rest = c :: cs → Reads g (w ++ rest) (next ⟨cs, .ofNat (w ++ [c]).length⟩)) :
    Reads g (w ++ rest) ((Remaining.expect ⟨rest, .ofNat w.length⟩ c).bind next) := by
  have hmisses (h : ∀ d ∈ rest.head?, d ≠ c) :
      g.Misses w rest (.expected c.toString rest.head? (.ofNat w.length)) := by
    have hlabel : label [c] = c.toString := rfl
    rw [← hlabel]
    exact .intro [c] (by simp) (by simpa using hc) fun d hd hviable => h d hd (hnext d hd hviable)
  cases rest with
  | nil => exact ⟨w, [], rfl, hmisses (by simp)⟩
  | cons d cs =>
    by_cases hd : d = c
    · subst hd
      have hread : Remaining.expect ⟨d :: cs, .ofNat w.length⟩ d =
          .ok ⟨cs, .ofNat (w ++ [d]).length⟩ := by
        rw [ofNat_length_concat]
        exact if_pos rfl
      rw [hread]
      exact h cs rfl
    · have hfail : Remaining.expect ⟨d :: cs, .ofNat w.length⟩ c =
          .error (.expected c.toString (some d) (.ofNat w.length)) := if_neg hd
      rw [hfail]
      exact ⟨w, d :: cs, rfl, hmisses (by simpa using hd)⟩

/-- Reading goes on behind `ab` and a run of `c`. -/
theorem reads_closing (hw : w = 'a' :: 'b' :: List.replicate n 'c') (cs : List Char) :
    Reads abCd (w ++ cs) (closing cs (.ofNat w.length)) := by
  induction cs generalizing w n with
  | nil =>
    have hnext (d : Char) : abCd.Viable (w ++ [d]) ↔ d = 'c' ∨ d = 'd' := hw ▸ viable_abCd_run n
    exact ⟨w, [], rfl, .intro ['c', 'd'] (by simp) (by simp [hnext]) (by simp)⟩
  | cons d cs ih =>
    have hnext (d : Char) : abCd.Viable (w ++ [d]) ↔ d = 'c' ∨ d = 'd' := hw ▸ viable_abCd_run n
    have hread : w ++ d :: cs = (w ++ [d]) ++ cs := by simp
    rw [closing, ← ofNat_length_concat w d]
    split
    · next hd =>
      rw [hread]
      exact ih (n := n + 1) (by simp [hw, hd, List.replicate_succ'])
    split
    · next hd => exact ⟨w ++ [d], ⟨n, by simp [hw, hd]⟩, hread, rfl⟩
    · next hc hd =>
      exact ⟨w, d :: cs, rfl, .intro ['c', 'd'] (by simp) (by simp [hnext])
        (by simp [hnext, hc, hd])⟩

theorem reads_abCdString (text : List Char) : Reads abCd text (abCdString ⟨text, 0⟩) := by
  refine reads_expect (w := []) (viable_abCd_nil.2 rfl) (fun _ _ => viable_abCd_nil.1) ?_
  rintro text rfl
  refine reads_expect (w := ['a']) (viable_abCd_a.2 rfl) (fun _ _ => viable_abCd_a.1) ?_
  rintro text rfl
  exact reads_closing (w := ['a', 'b']) (n := 0) rfl text

/-- A run is skipped whole. -/
theorem exists_skipRun (c : Char) (cs : List Char) (k : Nat) :
    ∃ n rest, cs = List.replicate n c ++ rest ∧ (∀ d ∈ rest.head?, d ≠ c) ∧
      Remaining.skipRun c cs (.ofNat k) = ⟨rest, .ofNat (k + n)⟩ := by
  induction cs generalizing k with
  | nil => exact ⟨0, [], rfl, by simp, rfl⟩
  | cons d cs ih =>
    by_cases hd : d = c
    · subst hd
      obtain ⟨n, rest, rfl, hrest, hskip⟩ := ih (k + 1)
      refine ⟨n + 1, rest, rfl, hrest, ?_⟩
      rw [Remaining.skipRun, if_pos rfl, Nat.add_comm n 1, ← Nat.add_assoc, ← hskip,
        UInt64.ofNat_add]
      rfl
    · exact ⟨0, d :: cs, rfl, by simpa using hd, by rw [Remaining.skipRun, if_neg hd]; rfl⟩

/-- Reading goes on behind a run of `a`. -/
theorem reads_afterRun (hw : w = List.replicate (n + 1) 'a') (hrest : ∀ d ∈ rest.head?, d ≠ 'a') :
    Reads anbC (w ++ rest)
      ((Remaining.expect ⟨rest, .ofNat w.length⟩ 'c').bind fun r => r.expect 'b') := by
  have hc (d : Char) : anbC.Viable (w ++ [d]) ↔ d = 'a' ∨ d = 'c' := hw ▸ viable_anbC_run n
  have hb (d : Char) : anbC.Viable (w ++ ['c'] ++ [d]) ↔ d = 'b' := by
    rw [List.append_assoc, hw]
    exact viable_anbC_closing n
  refine reads_expect ((hc 'c').2 (.inr rfl)) (fun d hd h => ((hc d).1 h).resolve_left (hrest d hd))
    ?_
  rintro rest rfl
  have hread : w ++ 'c' :: rest = w ++ ['c'] ++ rest := by simp
  rw [hread, ← bind_pure (Remaining.expect _ 'b')]
  refine reads_expect ((hb 'b').2 rfl) (fun d _ => (hb d).1) ?_
  rintro rest rfl
  exact ⟨w ++ ['c'] ++ ['b'], .inr ⟨n, by simp [hw]⟩, by simp, rfl⟩

theorem reads_anbCString (text : List Char) : Reads anbC text (anbCString ⟨text, 0⟩) := by
  have hmisses (h : ∀ d ∈ text.head?, d ≠ 'a' ∧ d ≠ 'c') :
      anbC.Misses [] text (.expected "a or c" text.head? 0) :=
    .intro ['a', 'c'] (by simp) (by simp [viable_anbC_nil]) (by simpa [viable_anbC_nil] using h)
  cases text with
  | nil => exact ⟨[], [], rfl, hmisses (by simp)⟩
  | cons d text =>
    by_cases ha : d = 'a'
    · subst ha
      obtain ⟨n, rest, hrun, hrest, hskip⟩ := exists_skipRun 'a' ('a' :: text) 0
      cases n with
      | zero =>
        subst hrun
        exact absurd rfl (hrest 'a' rfl)
      | succ n =>
        have hlength : 0 + (n + 1) = (List.replicate (n + 1) 'a').length := by simp
        rw [hlength] at hskip
        change Reads anbC _ ((Remaining.expect (Remaining.skipRun 'a' _ (.ofNat 0)) 'c').bind _)
        rw [hskip, hrun]
        exact reads_afterRun rfl hrest
    by_cases hc : d = 'c'
    · subst hc
      exact ⟨['c'], .inl rfl, rfl, rfl⟩
    · have hfail : anbCString ⟨d :: text, 0⟩ = .error (.expected "a or c" (some d) 0) := by
        simp [anbCString, ha, hc, Remaining.unexpected]
      rw [hfail]
      exact ⟨[], d :: text, rfl, hmisses (by simp [ha, hc])⟩

-- ---------------------------------------------------------------------------
-- Recognitions
-- ---------------------------------------------------------------------------

theorem exists_reads (g : CharGrammar) (input : String) :
    ∃ result, Reads g input.toList result ∧
      recognize g input = result.bind Remaining.finish := by
  cases g with
  | abCd => exact ⟨_, reads_abCdString _, rfl⟩
  | anbC => exact ⟨_, reads_anbCString _, rfl⟩

/-- A recognition accepts a string of the grammar, or fails behind one, or fails at a character that
goes on with none. -/
theorem recognize_cases (g : CharGrammar) (input : String) :
    (recognize g input = .ok () ∧ input.toList ∈ g.language) ∨
      (∃ w found rest, w ∈ g.language ∧ input.toList = w ++ found :: rest ∧
        recognize g input = .error (.trailing found (.ofNat w.length))) ∨
      ∃ w rest e, input.toList = w ++ rest ∧ g.Misses w rest e ∧ recognize g input = .error e := by
  obtain ⟨result, hreads, hresult⟩ := exists_reads g input
  rw [hresult]
  cases result with
  | error e =>
    obtain ⟨w, rest, htext, hmisses⟩ := hreads
    exact .inr (.inr ⟨w, rest, e, htext, hmisses, rfl⟩)
  | ok r =>
    obtain ⟨w, hw, htext, hoffset⟩ := hreads
    obtain ⟨chars, offset⟩ := r
    subst hoffset
    cases chars with
    | nil => exact .inl ⟨rfl, by simpa [htext] using hw⟩
    | cons found rest => exact .inr (.inl ⟨w, found, rest, hw, htext, rfl⟩)

theorem Misses.viable (h : g.Misses w rest e) : g.Viable w := by
  obtain ⟨names, hne, hnames, -⟩ := h
  obtain ⟨c, hc⟩ := List.exists_mem_of_ne_nil names hne
  exact (hnames c hc).of_isPrefix (List.prefix_append w [c])

theorem Misses.not_viable (h : g.Misses w rest e) (hv : v <+: w ++ rest)
    (hlength : w.length < v.length) : ¬ g.Viable v := by
  obtain ⟨-, -, -, hnext⟩ := h
  obtain ⟨u, rfl⟩ :=
    List.prefix_of_prefix_length_le (List.prefix_append w rest) hv (Nat.le_of_lt hlength)
  cases u with
  | nil => simp at hlength
  | cons d u =>
    have hhead : d ∈ rest.head? := by
      obtain ⟨t, ht⟩ := List.prefix_append_right_inj w |>.1 hv
      rw [← ht]
      rfl
    exact fun hviable => hnext d hhead (hviable.of_isPrefix ⟨u, by simp⟩)

/-- A string of the grammar does not begin what misses one. -/
theorem Misses.not_isPrefix (h : g.Misses w rest e) (hv : v ∈ g.language) : ¬ v <+: w ++ rest := by
  intro hprefix
  have hlength : v.length ≤ w.length :=
    Nat.not_lt.1 fun hlt => h.not_viable hprefix hlt ⟨v, hv, List.prefix_rfl⟩
  have hvw := List.prefix_of_prefix_length_le hprefix (List.prefix_append w rest) hlength
  obtain ⟨names, hne, hnames, -⟩ := h
  obtain ⟨c, hc⟩ := List.exists_mem_of_ne_nil names hne
  obtain ⟨u, hu, hwu⟩ := hnames c hc
  -- `v` begins the string that goes on with `c`, so it is that string, and longer than itself.
  obtain rfl := eq_of_isPrefix hv hu (hvw.trans ((List.prefix_append w [c]).trans hwu))
  have := hwu.length_le
  simp at this
  omega

/-- The beginning read is the longest one that begins a string of the grammar. -/
theorem Misses.isGreatest (h : g.Misses w rest e) :
    IsGreatest {k | k ≤ (w ++ rest).length ∧ g.Viable ((w ++ rest).take k)} w.length := by
  constructor
  · exact ⟨by simp, by simpa using h.viable⟩
  · rintro k ⟨hk, hviable⟩
    refine Nat.not_lt.1 fun hlt => h.not_viable (List.take_prefix k _) ?_ hviable
    rwa [List.length_take_of_le hk]

theorem recognize_eq_ok_iff {input : String} :
    recognize g input = .ok () ↔ input.toList ∈ g.language := by
  obtain ⟨hok, hmem⟩ | ⟨w, found, rest, hw, htext, hfail⟩ | ⟨w, rest, e, htext, hmisses, hfail⟩ :=
    recognize_cases g input
  · simp [hok, hmem]
  · simp only [hfail, reduceCtorEq, false_iff]
    intro hmem
    rw [htext] at hmem
    cases (append_inj_of_mem hmem hw (List.append_nil _)).2
  · simp only [hfail, reduceCtorEq, false_iff]
    rw [htext]
    exact fun hmem => hmisses.not_isPrefix hmem List.prefix_rfl

theorem recognize_eq_trailing_iff {input : String} {found : Char} {offset : UInt64} :
    recognize g input = .error (.trailing found offset) ↔
      ∃ w rest, w ∈ g.language ∧ input.toList = w ++ found :: rest ∧ offset = .ofNat w.length := by
  obtain ⟨hok, hmem⟩ | ⟨w, found', rest, hw, htext, hfail⟩ | ⟨w, rest, e, htext, hmisses, hfail⟩ :=
    recognize_cases g input
  · simp only [hok, reduceCtorEq, false_iff]
    rintro ⟨v, rest, hv, htext, -⟩
    cases (append_inj_of_mem hmem hv ((List.append_nil _).trans htext)).2
  · simp only [hfail, Except.error.injEq, Mismatch.trailing.injEq]
    constructor
    · rintro ⟨rfl, rfl⟩
      exact ⟨w, rest, hw, htext, rfl⟩
    · rintro ⟨v, rest', hv, htext', rfl⟩
      obtain ⟨rfl, hrest⟩ := append_inj_of_mem hw hv (htext.symm.trans htext')
      exact ⟨(List.cons.inj hrest).1, rfl⟩
  · constructor
    · intro htrailing
      obtain ⟨⟩ := hmisses
      rw [hfail] at htrailing
      cases htrailing
    · rintro ⟨v, rest', hv, htext', -⟩
      exact absurd ⟨_, htext'.symm⟩ (htext ▸ hmisses.not_isPrefix hv)

theorem getElem?_length_append (w rest : List Char) : (w ++ rest)[w.length]? = rest.head? := by
  rw [List.getElem?_append_right (Nat.le_refl _), Nat.sub_self, List.head?_eq_getElem?]

/-- An input that begins with no string of the grammar is left at the end of its longest beginning
that some string shares. -/
theorem recognize_eq_expected {input : String} (h : ∀ w ∈ g.language, ¬ w <+: input.toList) :
    ∃ k names, recognize g input =
        .error (.expected (label names) input.toList[k]? (.ofNat k)) ∧
      IsGreatest {k | k ≤ input.length ∧ g.Viable (input.toList.take k)} k ∧
      (input.toList[k]? = none ↔ k = input.length) ∧
      names ≠ [] ∧ ∀ c ∈ names, g.Viable (input.toList.take k ++ [c]) := by
  obtain ⟨hok, hmem⟩ | ⟨w, found, rest, hw, htext, hfail⟩ | ⟨w, rest, e, htext, hmisses, hfail⟩ :=
    recognize_cases g input
  · exact absurd List.prefix_rfl (h _ hmem)
  · exact absurd ⟨_, htext.symm⟩ (h w hw)
  · have hgreatest := hmisses.isGreatest
    obtain ⟨names, hne, hnames, -⟩ := hmisses
    rw [← String.length_toList, htext]
    refine ⟨w.length, names, by rw [hfail, getElem?_length_append], hgreatest, ?_, hne,
      by simpa using hnames⟩
    rw [List.getElem?_eq_none_iff, List.length_append]
    omega

/-- A failure names the character at its offset. -/
theorem found?_of_recognize {input : String} {m : Mismatch} (hlength : input.length < UInt64.size)
    (h : recognize g input = .error m) :
    m.offset.toNat ≤ input.length ∧ m.found? = input.toList[m.offset.toNat]? := by
  have hat {w rest : List Char} (htext : input.toList = w ++ rest)
      (hoffset : m.offset = .ofNat w.length) (hfound : m.found? = rest.head?) :
      m.offset.toNat ≤ input.length ∧ m.found? = input.toList[m.offset.toNat]? := by
    have hle : w.length ≤ input.length := by simp [← String.length_toList, htext]
    rw [hoffset, UInt64.toNat_ofNat_of_lt' (by omega), hfound, htext]
    exact ⟨hle, (getElem?_length_append w rest).symm⟩
  obtain ⟨hok, -⟩ | ⟨w, found, rest, -, htext, hfail⟩ | ⟨w, rest, e, htext, ⟨⟩, hfail⟩ :=
    recognize_cases g input
  · cases hok.symm.trans h
  · cases hfail.symm.trans h
    exact hat htext rfl rfl
  · cases hfail.symm.trans h
    exact hat htext rfl rfl

/-- The grammar is decided, and a failure says where the input leaves it. -/
theorem recognize_decides (g : CharGrammar) (input : String) :
    (recognize g input = .ok () ↔ input.toList ∈ g.language) ∧
      (∀ found offset, recognize g input = .error (.trailing found offset) ↔
        ∃ w rest, w ∈ g.language ∧ input.toList = w ++ found :: rest ∧
          offset = .ofNat w.length) ∧
      ((∀ w ∈ g.language, ¬ w <+: input.toList) →
        ∃ k names, recognize g input =
            .error (.expected (label names) input.toList[k]? (.ofNat k)) ∧
          IsGreatest {k | k ≤ input.length ∧ g.Viable (input.toList.take k)} k ∧
          (input.toList[k]? = none ↔ k = input.length) ∧
          names ≠ [] ∧ ∀ c ∈ names, g.Viable (input.toList.take k ++ [c])) ∧
      (input.length < UInt64.size → ∀ m, recognize g input = .error m →
        m.offset.toNat ≤ input.length ∧ m.found? = input.toList[m.offset.toNat]?) :=
  ⟨recognize_eq_ok_iff, fun _ _ => recognize_eq_trailing_iff, recognize_eq_expected,
    fun hlength _ h => found?_of_recognize hlength h⟩

example : recognize anbC "aacbb" = .error (.trailing 'b' 4) := by rfl

end FrontEnd.CharGrammar

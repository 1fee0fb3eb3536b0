-- SUMMARY: The grammar is predictive: one kind of lookahead decides every choice, so a word has one tree.
import FrontEnd.Proofs.Grammar.Tree

/-!
# Prediction

`starts` and `continues` say with which kinds a word of a form begins, and which
kinds may stand behind a whole word that is still not over. For rules both are
tables, and the bodies of the rules bear them out. A form is predictive when no
kind calls for two things at once: another round and the end of a repetition,
the one branch of a choice and the other.

In a predictive form the tree is found from left to right. So no word of a rule
has two trees, and none goes on in two ways.
-/

namespace FrontEnd.Grammar

instance decidableForallKind (p : Kind → Prop) [DecidablePred p] : Decidable (∀ k, p k) :=
  decidable_of_iff (∀ k ∈ Kind.all, p k) ⟨fun h k => h k k.mem_all, fun h k _ => h k⟩

/-- The kinds that a word of the rule begins with. -/
def Rule.starts : Rule → Kind → Bool
  | program, k => k.startsStatement || k = .endOfFile
  | statement, k | simpleStatement, k => k.startsStatement
  | expr, k | term, k | factor, k =>
    match k with
    | .plus | .minus | .unsignedInt | .name | .leftParen => true
    | _ => false

/-- The kinds that a whole word of the rule can go on with. -/
def Rule.continues : Rule → Kind → Bool
  | simpleStatement, k | expr, k => k = .plus || k = .times
  | term, k => k = .times
  | program, _ | statement, _ | factor, _ => false

namespace Form

/-- Whether the empty word is one of the form. -/
def nullable : Form → Bool
  | token _ | rule _ => false
  | seq a b => a.nullable && b.nullable
  | either a b => a.nullable || b.nullable
  | many _ => true

def starts : Form → Kind → Bool
  | token k', k => k' = k
  | rule r, k => r.starts k
  | seq a b, k => a.starts k || a.nullable && b.starts k
  | either a b, k => a.starts k || b.starts k
  | many a, k => a.starts k

def continues : Form → Kind → Bool
  | token _, _ => false
  | rule r, k => r.continues k
  | seq a b, k => b.continues k || b.nullable && a.continues k
  | either a b, k => a.continues k || b.continues k
  | many a, k => a.starts k || a.continues k

/-- Whether one kind of lookahead decides what to do at every place of the form. -/
def Predictive : Form → Prop
  | token _ | rule _ => True
  | seq a b => a.Predictive ∧ b.Predictive ∧ ∀ k, a.continues k = true → b.starts k = false
  | either a b =>
    a.Predictive ∧ b.Predictive ∧ a.nullable = false ∧ b.nullable = false ∧
      ∀ k, a.starts k = true → b.starts k = false
  | many a =>
    a.Predictive ∧ a.nullable = false ∧ ∀ k, a.continues k = true → a.starts k = false

instance decidablePredictive : (a : Form) → Decidable a.Predictive
  | token _ | rule _ => inferInstanceAs (Decidable True)
  | seq a b =>
    have := decidablePredictive a
    have := decidablePredictive b
    inferInstanceAs (Decidable (_ ∧ _ ∧ _))
  | either a b =>
    have := decidablePredictive a
    have := decidablePredictive b
    inferInstanceAs (Decidable (_ ∧ _ ∧ _ ∧ _ ∧ _))
  | many a =>
    have := decidablePredictive a
    inferInstanceAs (Decidable (_ ∧ _ ∧ _))

end Form

namespace Rule

theorem predictive_body (r : Rule) : r.body.Predictive := by
  cases r <;> decide

@[simp] theorem nullable_body (r : Rule) : r.body.nullable = false := by
  cases r <;> rfl

@[simp] theorem starts_body (r : Rule) : ∀ k, r.body.starts k = r.starts k := by
  cases r <;> decide

@[simp] theorem continues_body (r : Rule) : ∀ k, r.body.continues k = r.continues k := by
  cases r <;> decide

end Rule

namespace Tree

variable {a b : Form} {k k' : Kind} {ks ks' : List Kind}

theorem nullable_of_word_eq_nil (t : Tree a) (h : t.word = []) : a.nullable = true := by
  induction t with
  | leaf k => cases h
  | node t ih => simpa using ih h
  | seq t u iht ihu =>
    obtain ⟨ht, hu⟩ := List.append_eq_nil_iff.1 h
    simp [Form.nullable, iht ht, ihu hu]
  | left t ih => simp [Form.nullable, ih h]
  | right t ih => simp [Form.nullable, ih h]
  | nil => rfl
  | cons t u _ _ => rfl

theorem starts_of_word_eq_cons (t : Tree a) (h : t.word = k :: ks) : a.starts k = true := by
  induction t generalizing ks with
  | leaf k' =>
    cases h
    simp [Form.starts]
  | @node r t ih => simpa [Form.starts] using ih h
  | seq t u iht ihu =>
    cases ht : t.word with
    | nil =>
      have hu : u.word = k :: ks := by simpa [ht] using h
      simp [Form.starts, t.nullable_of_word_eq_nil ht, ihu hu]
    | cons j js =>
      obtain ⟨rfl, -⟩ : j = k ∧ _ := by simpa [ht] using h
      simp [Form.starts, iht ht]
  | left t ih => simp [Form.starts, ih h]
  | right t ih => simp [Form.starts, ih h]
  | nil => cases h
  | cons t u iht ihu =>
    cases ht : t.word with
    | nil =>
      have hu : u.word = k :: ks := by simpa [ht] using h
      exact ihu hu
    | cons j js =>
      obtain ⟨rfl, -⟩ : j = k ∧ _ := by simpa [ht] using h
      exact iht ht

/-- Behind a word of `a` stands either the beginning of `u`, or what follows `u` when that is empty.
Neither goes on with the word of `a`. -/
theorem exists_next (u : Tree b) (k : Kind) (ks : List Kind)
    (hb : ∀ k, a.continues k = true → b.starts k = false)
    (hk : b.nullable = true → a.continues k = false) :
    ∃ j js, u.word ++ k :: ks = j :: js ∧ a.continues j = false := by
  cases hu : u.word with
  | nil => exact ⟨k, ks, rfl, hk (u.nullable_of_word_eq_nil hu)⟩
  | cons j js =>
    refine ⟨j, js ++ k :: ks, rfl, ?_⟩
    cases hj : a.continues j with
    | false => rfl
    | true => simpa [u.starts_of_word_eq_cons hu] using hb j hj

/-- A form that is not nullable starts with the first kind of its word and whatever follows. -/
theorem starts_of_append (t : Tree a) (ha : a.nullable = false) {j : Kind} {js : List Kind}
    (h : t.word ++ ks = j :: js) : a.starts j = true := by
  cases ht : t.word with
  | nil => simp [t.nullable_of_word_eq_nil ht] at ha
  | cons i is =>
    obtain ⟨rfl, -⟩ : i = j ∧ _ := by simpa [ht] using h
    exact t.starts_of_word_eq_cons ht

/-- Trees of two alternatives are not read from the same kinds. -/
theorem append_ne (t : Tree a) (t' : Tree b) (ha : a.nullable = false) (hb : b.nullable = false)
    (hdisj : ∀ k, a.starts k = true → b.starts k = false) :
    t.word ++ k :: ks ≠ t'.word ++ k' :: ks' := by
  intro h
  obtain ⟨j, js, hj⟩ := List.exists_cons_of_ne_nil (l := t.word ++ k :: ks) (by simp)
  have hstarts := t.starts_of_append ha hj
  have hstarts' := t'.starts_of_append hb (h.symm.trans hj)
  simp [hdisj j hstarts] at hstarts'

/-- Where the first of two trees can be read in one way only, and then the second too, both can. -/
theorem append_unique {t t' : Tree a} {u u' : Tree b}
    (ht : ∀ {k k' : Kind} {ks ks' : List Kind}, a.continues k = false → a.continues k' = false →
      t.word ++ k :: ks = t'.word ++ k' :: ks' → t = t' ∧ k :: ks = k' :: ks')
    (hu : u.word ++ k :: ks = u'.word ++ k' :: ks' → u = u' ∧ k :: ks = k' :: ks')
    (hdisj : ∀ k, a.continues k = true → b.starts k = false)
    (hk : b.nullable = true → a.continues k = false)
    (hk' : b.nullable = true → a.continues k' = false)
    (h : (t.word ++ u.word) ++ k :: ks = (t'.word ++ u'.word) ++ k' :: ks') :
    (t = t' ∧ u = u') ∧ k :: ks = k' :: ks' := by
  obtain ⟨j, js, hj, hcont⟩ := u.exists_next k ks hdisj hk
  obtain ⟨j', js', hj', hcont'⟩ := u'.exists_next k' ks' hdisj hk'
  have hwords : t.word ++ j :: js = t'.word ++ j' :: js' := by
    rw [← hj, ← hj', ← List.append_assoc, ← List.append_assoc, h]
  obtain ⟨rfl, hrest⟩ := ht hcont hcont' hwords
  obtain ⟨rfl, hks⟩ := hu (by rw [hj, hj', hrest])
  exact ⟨⟨rfl, rfl⟩, hks⟩

/-- Two trees of a predictive form that are read from the same kinds are one, when neither can go on
behind its end. -/
theorem unique (t t' : Tree a) (ha : a.Predictive) (hk : a.continues k = false)
    (hk' : a.continues k' = false) (h : t.word ++ k :: ks = t'.word ++ k' :: ks') :
    t = t' ∧ k :: ks = k' :: ks' := by
  induction t generalizing k k' ks ks' with
  | leaf _ =>
    cases t'
    simpa using h
  | @node r t ih =>
    cases t' with
    | node t' =>
      obtain ⟨rfl, hks⟩ := ih t' r.predictive_body ((r.continues_body k).trans hk)
        ((r.continues_body k').trans hk') h
      exact ⟨rfl, hks⟩
  | seq t u iht ihu =>
    cases t' with
    | seq t' u' =>
      obtain ⟨ht, hu, hdisj⟩ := ha
      simp only [Form.continues, Bool.or_eq_false_iff, Bool.and_eq_false_imp] at hk hk'
      obtain ⟨⟨rfl, rfl⟩, hks⟩ :=
        append_unique (iht t' ht) (ihu u' hu hk.1 hk'.1) hdisj hk.2 hk'.2 h
      exact ⟨rfl, hks⟩
  | left t ih =>
    obtain ⟨hl, -, hnl, hnr, hdisj⟩ := ha
    simp only [Form.continues, Bool.or_eq_false_iff] at hk hk'
    cases t' with
    | left t' =>
      obtain ⟨rfl, hks⟩ := ih t' hl hk.1 hk'.1 h
      exact ⟨rfl, hks⟩
    | right t' => exact absurd h (t.append_ne t' hnl hnr hdisj)
  | right t ih =>
    obtain ⟨-, hr, hnl, hnr, hdisj⟩ := ha
    simp only [Form.continues, Bool.or_eq_false_iff] at hk hk'
    cases t' with
    | left t' => exact absurd h.symm (t'.append_ne t hnl hnr hdisj)
    | right t' =>
      obtain ⟨rfl, hks⟩ := ih t' hr hk.2 hk'.2 h
      exact ⟨rfl, hks⟩
  | nil =>
    cases t' with
    | nil => exact ⟨rfl, h⟩
    | cons t' u' =>
      -- The kind behind an empty repetition would begin another round.
      have hround : t'.word ++ (u'.word ++ k' :: ks') = k :: ks := by simpa using h.symm
      have hstarts := t'.starts_of_append ha.2.1 hround
      simp [Form.continues, hstarts] at hk
  | cons t u iht ihu =>
    cases t' with
    | nil =>
      have hround : t.word ++ (u.word ++ k :: ks) = k' :: ks' := by simpa using h
      have hstarts := t.starts_of_append ha.2.1 hround
      simp [Form.continues, hstarts] at hk'
    | cons t' u' =>
      have hround := hk
      have hround' := hk'
      simp only [Form.continues, Bool.or_eq_false_iff] at hround hround'
      obtain ⟨⟨rfl, rfl⟩, hks⟩ := append_unique (iht t' ha.1) (ihu u' ha hk hk') ha.2.2
        (fun _ => hround.2) (fun _ => hround'.2) h
      exact ⟨rfl, hks⟩

/-- A list of kinds begins with at most one program, and that has one tree. -/
theorem program_unique {t t' : Tree (.rule .program)} (h : t.word <+: ks) (h' : t'.word <+: ks) :
    t = t' := by
  obtain ⟨js, hjs⟩ := h
  obtain ⟨js', hjs'⟩ := h'
  -- Any kind will do behind the list, for nothing goes on behind a program.
  obtain ⟨k, is, his⟩ := List.exists_cons_of_ne_nil (l := js ++ [.newline]) (by simp)
  obtain ⟨k', is', his'⟩ := List.exists_cons_of_ne_nil (l := js' ++ [.newline]) (by simp)
  have hwords : t.word ++ k :: is = t'.word ++ k' :: is' := by
    rw [← his, ← his', ← List.append_assoc, ← List.append_assoc, hjs, hjs']
  exact (t.unique t' trivial rfl rfl hwords).1

end Tree

/-- A form that is not nullable has a word with a first kind. -/
theorem Form.exists_viable_of_not_nullable {a : Form} (ha : a.nullable = false) :
    ∃ k, a.Viable [k] := by
  obtain ⟨t⟩ := a.derives
  cases ht : t.word with
  | nil => simp [t.nullable_of_word_eq_nil ht] at ha
  | cons k ks => exact ⟨k, t, by simp [ht]⟩

theorem viable_factor {k : Kind} (h : Rule.factor.starts k = true) :
    Rule.factor.body.Viable [k] := by
  cases k with
  | plus => exact .left (.seq_left (.token _))
  | minus => exact .right (.left (.seq_left (.token _)))
  | unsignedInt => exact .right (.right (.left (.token _)))
  | name => exact .right (.right (.right (.left (.token _))))
  | leftParen => exact .right (.right (.right (.right (.seq_left (.token _)))))
  | _ => cases h

theorem viable_simpleStatement {k : Kind} (h : k.startsStatement = true) :
    Rule.simpleStatement.body.Viable [k] := by
  cases k with
  | name => exact .left (.seq_left (.token _))
  | print => exact .right (.seq_left (.token _))
  | _ => cases h

end FrontEnd.Grammar

-- SUMMARY: How a first character decides a token, and which character classes exclude each other.
import FrontEnd.Token.Lexer

/-!
# Spellings

A `Spelling` is what the first character of a token decides: the characters that
go on with the token, and the kind of what they make up. The lexer knows three
(numbers, words and single characters), and they obey the same laws: white space
goes on with no token, and no character but the newline is both white space and
the start of one.

Two neighbouring characters belong to different tokens unless both are parts of
words. Scanning of a text can be cut between such characters.
-/

namespace FrontEnd

open Unicode

-- ---------------------------------------------------------------------------
-- Disjoint classes
-- ---------------------------------------------------------------------------

namespace Unicode

/-- Whether no code point is in both sets. -/
def CodeRanges.disjoint (xs ys : CodeRanges) : Bool :=
  xs.all fun x => ys.all fun y => x.2 < y.1 || y.2 < x.1

theorem CodeRanges.contains_eq_false {xs ys : CodeRanges} {c : Char}
    (h : xs.disjoint ys = true) (hc : xs.contains c = true) : ys.contains c = false := by
  obtain ⟨x, hx, hfirst, hlast⟩ := contains_iff.1 hc
  refine Bool.eq_false_iff.2 fun hys => ?_
  obtain ⟨y, hy, hfirst', hlast'⟩ := contains_iff.1 hys
  have := List.all_eq_true.1 (List.all_eq_true.1 h x hx) y hy
  simp only [Bool.or_eq_true, decide_eq_true_eq] at this
  omega

theorem isWhiteSpace_eq_false_of_isAlphabetic {c : Char} (h : isAlphabetic c = true) :
    isWhiteSpace c = false :=
  CodeRanges.contains_eq_false (by decide +kernel) h

theorem isWhiteSpace_eq_false_of_isNumeric {c : Char} (h : isNumeric c = true) :
    isWhiteSpace c = false :=
  CodeRanges.contains_eq_false (by decide +kernel) h

end Unicode

variable {c d : Char} {k : Kind}

theorem isWhiteSpace_eq_false_of_isWordPart (h : isWordPart c = true) : isWhiteSpace c = false := by
  simp only [isWordPart, isAlphanumeric, Bool.or_eq_true, decide_eq_true_eq] at h
  rcases h with (h | h) | rfl
  · exact isWhiteSpace_eq_false_of_isAlphabetic h
  · exact isWhiteSpace_eq_false_of_isNumeric h
  · decide

theorem isSpacing_iff : isSpacing c = true ↔ isWhiteSpace c = true ∧ c ≠ '\n' := by
  simp [isSpacing]

namespace Kind

/-- The characters that are tokens by themselves, with their kinds. -/
def symbols : List (Char × Kind) :=
  [('=', assign), ('(', leftParen), (')', rightParen), ('+', plus), ('-', minus), ('*', times),
   ('\n', newline)]

theorem mem_symbols (h : ofSymbol? c = some k) : (c, k) ∈ symbols := by
  unfold ofSymbol? at h
  split at h <;> simp_all [symbols]

theorem isWordPart_of_mem_symbols (h : (c, k) ∈ symbols) : isWordPart c = false := by
  have hall : ∀ x ∈ symbols, isWordPart x.1 = false := by decide +kernel
  exact hall _ h

theorem ofWord_cases (lexeme : String) : ofWord lexeme = print ∨ ofWord lexeme = name := by
  unfold ofWord
  split
  · exact .inl rfl
  · exact .inr rfl

end Kind

-- ---------------------------------------------------------------------------
-- Spellings
-- ---------------------------------------------------------------------------

/-- How tokens with the same kind of first character are spelled. -/
structure Spelling where
  /-- The kind of a token by its lexeme. -/
  kind : String → Kind
  /-- The characters that go on with it. -/
  continues : Char → Bool

namespace Spelling

def number : Spelling := ⟨fun _ => .unsignedInt, Char.isDigit⟩

def word : Spelling := ⟨Kind.ofWord, isWordPart⟩

def symbol (k : Kind) : Spelling := ⟨fun _ => k, fun _ => false⟩

/-- The spelling of the tokens that `c` starts. -/
def of? (c : Char) : Option Spelling :=
  if c.isDigit then some number
  else if isWordStart c then some word
  else (Kind.ofSymbol? c).map symbol

variable {σ : Spelling}

/-- The three ways to start a token. -/
theorem of?_cases (h : of? c = some σ) :
    c.isDigit = true ∧ σ = number ∨ isWordStart c = true ∧ σ = word ∨
      ∃ k, Kind.ofSymbol? c = some k ∧ σ = symbol k := by
  unfold of? at h
  split at h
  · next hdigit => exact .inl ⟨hdigit, (Option.some.inj h).symm⟩
  split at h
  · next hword => exact .inr (.inl ⟨hword, (Option.some.inj h).symm⟩)
  obtain ⟨k, hk, hsymbol⟩ := Option.map_eq_some_iff.1 h
  exact .inr (.inr ⟨k, hk, hsymbol.symm⟩)

theorem of?_newline : of? '\n' = some (symbol .newline) := by
  have hword : isWordStart '\n' = false := by decide +kernel
  simp [of?, hword, Kind.ofSymbol?]

theorem isWordPart_of_continues (h : of? c = some σ) (hd : σ.continues d = true) :
    isWordPart d = true := by
  obtain ⟨-, rfl⟩ | ⟨-, rfl⟩ | ⟨k, -, rfl⟩ := of?_cases h
  · exact isWordPart_of_isDigit hd
  · exact hd
  · cases hd

/-- A token that goes on starts with a part of a word. -/
theorem isWordPart_of_of? (h : of? c = some σ) (hd : σ.continues d = true) :
    isWordPart c = true := by
  obtain ⟨hc, -⟩ | ⟨hc, -⟩ | ⟨k, -, rfl⟩ := of?_cases h
  · exact isWordPart_of_isDigit hc
  · exact isWordPart_of_isWordStart hc
  · cases hd

theorem isWhiteSpace_of_continues (h : of? c = some σ) (hd : σ.continues d = true) :
    isWhiteSpace d = false :=
  isWhiteSpace_eq_false_of_isWordPart (isWordPart_of_continues h hd)

/-- White space starts a token only as a newline, and no other character starts a newline token. -/
theorem isWhiteSpace_of_of? (h : of? c = some σ) (lexeme : String) :
    (σ.kind lexeme = .newline ↔ isWhiteSpace c = true) ∧ (isWhiteSpace c = true → c = '\n') := by
  obtain ⟨hc, rfl⟩ | ⟨hc, rfl⟩ | ⟨k, hc, rfl⟩ := of?_cases h
  · simp [number, isWhiteSpace_eq_false_of_isWordPart (isWordPart_of_isDigit hc)]
  · have hkind : word.kind lexeme ≠ .newline := by
      obtain hword | hword := Kind.ofWord_cases lexeme <;> simp [word, hword]
    simp [hkind, isWhiteSpace_eq_false_of_isWordPart (isWordPart_of_isWordStart hc)]
  · have : ∀ x ∈ Kind.symbols, (x.2 = .newline ↔ isWhiteSpace x.1 = true) ∧
        (isWhiteSpace x.1 = true → x.1 = '\n') := by
      decide
    exact this _ (Kind.mem_symbols hc)

theorem kind_eq_newline_iff (h : of? c = some σ) (lexeme : String) :
    σ.kind lexeme = .newline ↔ c = '\n' := by
  obtain ⟨hkind, hnewline⟩ := isWhiteSpace_of_of? h lexeme
  refine hkind.trans ⟨hnewline, ?_⟩
  rintro rfl
  decide

/-- Newlines stand at the beginning of a token only. -/
theorem newline_not_mem (h : of? c = some σ) {w : List Char}
    (hw : ∀ d ∈ w, σ.continues d = true) : '\n' ∉ w := by
  intro hmem
  cases isWhiteSpace_of_continues h (hw _ hmem)

/-- Nothing goes on with a character that is a token by itself. -/
theorem eq_nil_of_symbol {w : List Char} (hw : ∀ d ∈ w, (symbol k).continues d = true) : w = [] :=
  List.eq_nil_iff_forall_not_mem.2 fun d hd => by cases hw d hd

theorem isSpacing_eq_false (h : of? c = some σ) : isSpacing c = false := by
  refine Bool.eq_false_iff.2 fun hspacing => ?_
  obtain ⟨hwhite, hne⟩ := isSpacing_iff.1 hspacing
  exact hne ((isWhiteSpace_of_of? h "").2 hwhite)

/-- A token is a number, a word or a character with a kind of its own. -/
theorem kind_cases (h : of? c = some σ) (lexeme : String) :
    σ.kind lexeme ∈ [Kind.unsignedInt, .print, .name] ++ Kind.symbols.map (·.2) := by
  obtain ⟨-, rfl⟩ | ⟨-, rfl⟩ | ⟨k, hk, rfl⟩ := of?_cases h
  · simp [number]
  · obtain hword | hword := Kind.ofWord_cases lexeme <;> simp [word, hword]
  · exact List.mem_append_right _ (List.mem_map_of_mem (f := (·.2)) (Kind.mem_symbols hk))

/-- No character starts an end-of-file token. -/
theorem kind_ne_endOfFile (h : of? c = some σ) (lexeme : String) :
    σ.kind lexeme ≠ .endOfFile :=
  fun hkind => absurd (hkind ▸ kind_cases h lexeme) (by decide)

/-- Tokens of kind `error` stand for characters that start none. -/
theorem kind_ne_error (h : of? c = some σ) (lexeme : String) : σ.kind lexeme ≠ .error :=
  fun hkind => absurd (hkind ▸ kind_cases h lexeme) (by decide)

end Spelling

end FrontEnd

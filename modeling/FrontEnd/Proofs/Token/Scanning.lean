-- SUMMARY: Scanning by equations, one for each way characters can begin, and scanning of texts put together.
import FrontEnd.Proofs.Token.Spelling

/-!
# Scanning

`Lexed.scan` is what the lexer makes of located characters in front of the end
of a text. It obeys four equations, by what comes first: nothing, spacing, the
characters of one token, or a character that starts none. Every list of
characters begins in one of these ways (`Segmented`), so a fact about scanning
is proved by induction along them.

The characters of a token are delimited by the next character alone. So where
two neighbours are not both parts of words, the characters on either side can be
scanned for themselves.
-/

namespace FrontEnd

variable {finish finish' : Position} {c : Located} {run xs ys : List Located} {σ : Spelling}

-- ---------------------------------------------------------------------------
-- One answer
-- ---------------------------------------------------------------------------

namespace Lexer

theorem nextToken_nil (x : Lexer) (h : x.rest = []) :
    x.nextToken = (.ok (.endOfFile x.finish), x) := by
  cases x
  simp_all [nextToken]

theorem nextToken_spacing (hc : isSpacing c.char = true) (done : Bool) :
    nextToken ⟨c :: xs, finish, done⟩ = nextToken ⟨xs, finish, done⟩ := by
  have hdrop : (c :: xs).dropWhile (isSpacing ·.char) = xs.dropWhile (isSpacing ·.char) := by
    simp [hc]
  simp only [nextToken, hdrop]
  rfl

/-- What a lexer does in front of a character that is not spacing. -/
theorem nextToken_cons (hc : isSpacing c.char = false) (done : Bool) :
    nextToken ⟨c :: xs, finish, done⟩ =
      match Spelling.of? c.char with
      | some σ =>
        let lexeme := String.ofList (c.char :: (xs.takeWhile (σ.continues ·.char)).map (·.char))
        (.ok ⟨σ.kind lexeme, lexeme, c.position⟩,
          ⟨xs.dropWhile (σ.continues ·.char), finish, done⟩)
      | none => (.error ⟨c.char, c.position⟩, ⟨c :: xs, finish, done⟩) := by
  have hdrop : (c :: xs).dropWhile (isSpacing ·.char) = c :: xs := by simp [hc]
  unfold nextToken Spelling.of?
  simp only [hdrop]
  split
  · rfl
  split
  · rfl
  cases Kind.ofSymbol? c.char with
  | none => rfl
  | some k =>
    have htake : xs.takeWhile (fun _ => false) = [] := by cases xs <;> rfl
    have hdrop : xs.dropWhile (fun _ => false) = xs := by cases xs <;> rfl
    simp only [Option.map_some, Spelling.symbol, htake, hdrop, List.map_nil]
    rw [Char.toString, String.singleton_eq_ofList]

/-- The token that is spelled by `c` and the characters behind it. -/
def tokenOf (σ : Spelling) (c : Located) (run : List Located) : Token :=
  let lexeme := String.ofList (c.char :: run.map (·.char))
  ⟨σ.kind lexeme, lexeme, c.position⟩

theorem kind_tokenOf_eq_newline_iff (run : List Located) (hσ : Spelling.of? c.char = some σ) :
    (tokenOf σ c run).kind = .newline ↔ Unicode.isWhiteSpace c.char = true :=
  (Spelling.isWhiteSpace_of_of? hσ _).1

theorem nextToken_token (hσ : Spelling.of? c.char = some σ)
    (hrun : ∀ d ∈ run, σ.continues d.char = true)
    (hstop : ∀ d ∈ xs.head?, σ.continues d.char = false) (done : Bool) :
    nextToken ⟨c :: (run ++ xs), finish, done⟩ =
      (.ok (tokenOf σ c run), ⟨xs, finish, done⟩) := by
  have htake : (run ++ xs).takeWhile (σ.continues ·.char) = run := by
    rw [List.takeWhile_append_of_pos hrun]
    cases xs with
    | nil => simp
    | cons d ds => simp [hstop d rfl]
  have hdrop : (run ++ xs).dropWhile (σ.continues ·.char) = xs := by
    rw [List.dropWhile_append_of_pos hrun]
    cases xs with
    | nil => rfl
    | cons d ds => simp [hstop d rfl]
  rw [nextToken_cons (Spelling.isSpacing_eq_false hσ), hσ]
  simp only [htake, hdrop]
  rfl

theorem nextToken_invalid (hc : isSpacing c.char = false) (hσ : Spelling.of? c.char = none)
    (done : Bool) :
    nextToken ⟨c :: xs, finish, done⟩ =
      (.error ⟨c.char, c.position⟩, ⟨c :: xs, finish, done⟩) := by
  rw [nextToken_cons hc, hσ]

end Lexer

-- ---------------------------------------------------------------------------
-- Segments
-- ---------------------------------------------------------------------------

/-- The ways in which characters begin, each in front of characters that begin in one of them. -/
inductive Segmented : List Located → Prop where
  | nil : Segmented []
  | spacing {c : Located} {xs : List Located} (hc : isSpacing c.char = true)
      (h : Segmented xs) : Segmented (c :: xs)
  | token {c : Located} {run xs : List Located} {σ : Spelling}
      (hσ : Spelling.of? c.char = some σ) (hrun : ∀ d ∈ run, σ.continues d.char = true)
      (hstop : ∀ d ∈ xs.head?, σ.continues d.char = false)
      (h : Segmented xs) : Segmented (c :: (run ++ xs))
  | invalid {c : Located} {xs : List Located} (hc : isSpacing c.char = false)
      (hσ : Spelling.of? c.char = none) : Segmented (c :: xs)

theorem segmented (xs : List Located) : Segmented xs := by
  induction hlength : xs.length using Nat.strongRecOn generalizing xs with
  | ind n ih =>
    cases xs with
    | nil => exact .nil
    | cons c xs =>
      rw [List.length_cons] at hlength
      cases hc : isSpacing c.char with
      | true => exact .spacing hc (ih _ (by omega) xs rfl)
      | false =>
        cases hσ : Spelling.of? c.char with
        | none => exact .invalid hc hσ
        | some σ =>
          let run := xs.takeWhile (σ.continues ·.char)
          let rest := xs.dropWhile (σ.continues ·.char)
          have hxs : run ++ rest = xs := List.takeWhile_append_dropWhile
          have hrest : rest.length ≤ xs.length := (List.dropWhile_sublist _).length_le
          rw [← hxs]
          refine .token hσ (fun d hd => ?_) (fun d hd => ?_) (ih _ (by omega) rest rfl)
          · exact List.all_eq_true.1 List.all_takeWhile d hd
          · have := List.head?_dropWhile_not (σ.continues ·.char) xs
            rw [show (xs.dropWhile (σ.continues ·.char)).head? = some d from hd] at this
            simpa using this

-- ---------------------------------------------------------------------------
-- The whole scan
-- ---------------------------------------------------------------------------

namespace Lexed

/-- What scanning gives in front of an end at `finish`. -/
def scan (finish : Position) (xs : List Located) : Lexed :=
  ofLexer ⟨xs, finish, false⟩

/-- A scan behind tokens that were taken before. -/
def behind (ts : Tokens) (x : Lexed) : Lexed :=
  { x with tokens := ts ++ x.tokens }

@[simp] theorem tokens_behind (ts : Tokens) (x : Lexed) :
    (x.behind ts).tokens = ts ++ x.tokens := rfl
@[simp] theorem error_behind (ts : Tokens) (x : Lexed) : (x.behind ts).error = x.error := rfl
@[simp] theorem behind_behind (ts us : Tokens) (x : Lexed) :
    (x.behind us).behind ts = x.behind (ts ++ us) := by
  simp [behind]

variable {seen : Tokens} {n : Nat}

theorem collect_done (x : Lexer) (h : x.done = true) :
    collect seen n x = { tokens := seen.reverse } := by
  cases n with
  | zero => rfl
  | succ n => simp [collect, Lexer.next_of_done h]

theorem collect_nil : collect seen (n + 1) ⟨[], finish, false⟩ =
    { tokens := seen.reverse ++ [.endOfFile finish] } := by
  rw [collect, Lexer.next_of_not_done rfl, Lexer.nextToken_nil _ rfl]
  show collect _ n ⟨[], finish, true⟩ = _
  rw [collect_done _ rfl, List.reverse_cons]

theorem collect_spacing (hc : isSpacing c.char = true) :
    collect seen n ⟨c :: xs, finish, false⟩ = collect seen n ⟨xs, finish, false⟩ := by
  cases n with
  | zero => rfl
  | succ n =>
    rw [collect, collect, Lexer.next_of_not_done rfl, Lexer.next_of_not_done rfl,
      Lexer.nextToken_spacing hc]

theorem collect_token (hσ : Spelling.of? c.char = some σ)
    (hrun : ∀ d ∈ run, σ.continues d.char = true)
    (hstop : ∀ d ∈ xs.head?, σ.continues d.char = false) :
    collect seen (n + 1) ⟨c :: (run ++ xs), finish, false⟩ =
      collect (Lexer.tokenOf σ c run :: seen) n ⟨xs, finish, false⟩ := by
  have hlast : Lexer.isLast (.ok (Lexer.tokenOf σ c run)) = false :=
    decide_eq_false (Spelling.kind_ne_endOfFile hσ _)
  rw [collect, Lexer.next_of_not_done rfl, Lexer.nextToken_token hσ hrun hstop]
  simp only [hlast]

theorem collect_invalid (hc : isSpacing c.char = false) (hσ : Spelling.of? c.char = none) :
    collect seen (n + 1) ⟨c :: xs, finish, false⟩ =
      { tokens := seen.reverse, error := some ⟨c.char, c.position⟩ } := by
  rw [collect, Lexer.next_of_not_done rfl, Lexer.nextToken_invalid hc hσ]

/-- With an answer for each character and one more, the loop comes to the end of the scan. -/
theorem collect_eq (finish : Position) (xs : List Located) (h : xs.length < n) :
    collect seen n ⟨xs, finish, false⟩ = (scan finish xs).behind seen.reverse := by
  induction segmented xs generalizing seen n with
  | nil =>
    obtain ⟨n, rfl⟩ := Nat.exists_eq_succ_of_ne_zero (Nat.ne_zero_of_lt h)
    rw [collect_nil, scan, ofLexer, collect_nil]
    rfl
  | @spacing c xs hc _ ih =>
    rw [List.length_cons] at h
    have hscan : scan finish (c :: xs) = (scan finish xs).behind [] := by
      rw [scan, ofLexer, collect_spacing hc, ih (by simp; omega)]
      rfl
    rw [collect_spacing hc, ih (by omega), hscan, behind_behind, List.append_nil]
  | @token c run xs σ hσ hrun hstop _ ih =>
    obtain ⟨n, rfl⟩ := Nat.exists_eq_succ_of_ne_zero (Nat.ne_zero_of_lt h)
    rw [List.length_cons, List.length_append] at h
    have hscan : scan finish (c :: (run ++ xs)) =
        (scan finish xs).behind [Lexer.tokenOf σ c run] := by
      rw [scan, ofLexer, collect_token hσ hrun hstop, ih (by simp; omega)]
      rfl
    rw [collect_token hσ hrun hstop, ih (by omega), hscan, behind_behind, List.reverse_cons]
  | invalid hc hσ =>
    obtain ⟨n, rfl⟩ := Nat.exists_eq_succ_of_ne_zero (Nat.ne_zero_of_lt h)
    rw [collect_invalid hc hσ, scan, ofLexer, collect_invalid hc hσ]
    simp [behind]

@[simp] theorem scan_nil (finish : Position) : scan finish [] = { tokens := [.endOfFile finish] } :=
  collect_nil

theorem scan_spacing (hc : isSpacing c.char = true) : scan finish (c :: xs) = scan finish xs := by
  rw [scan, ofLexer, collect_spacing hc, collect_eq _ _ (by simp; omega)]
  rfl

theorem scan_token (hσ : Spelling.of? c.char = some σ)
    (hrun : ∀ d ∈ run, σ.continues d.char = true)
    (hstop : ∀ d ∈ xs.head?, σ.continues d.char = false) :
    scan finish (c :: (run ++ xs)) = (scan finish xs).behind [Lexer.tokenOf σ c run] := by
  rw [scan, ofLexer, collect_token hσ hrun hstop, collect_eq _ _ (by simp; omega)]
  rfl

theorem scan_invalid (hc : isSpacing c.char = false) (hσ : Spelling.of? c.char = none) :
    scan finish (c :: xs) = { tokens := [], error := some ⟨c.char, c.position⟩ } :=
  collect_invalid hc hσ

/-- Spacing alone has no tokens. -/
theorem scan_of_forall_isSpacing (finish : Position) (ys : List Located)
    (h : ∀ c ∈ xs, isSpacing c.char = true) : scan finish (xs ++ ys) = scan finish ys := by
  induction xs with
  | nil => rfl
  | cons c xs ih =>
    rw [List.cons_append, scan_spacing (h c (.head _)), ih fun d hd => h d (.tail _ hd)]

-- ---------------------------------------------------------------------------
-- Scans put together
-- ---------------------------------------------------------------------------

/-- A scan that is gone on with by another one, where it came to the end. -/
def andThen (x y : Lexed) : Lexed :=
  match x.error with
  | none => y.behind x.tokens.dropLast
  | some _ => x

theorem andThen_behind {ts : Tokens} {x y : Lexed} (h : x.tokens ≠ [] ∨ x.error.isSome) :
    (x.behind ts).andThen y = (x.andThen y).behind ts := by
  cases he : x.error with
  | none =>
    have hne : x.tokens ≠ [] := by simpa [he] using h
    simp [andThen, he, List.dropLast_append_of_ne_nil hne]
  | some e => simp [andThen, he]

/-- A scan that came to the end has the end-of-file token last, and no other one. -/
theorem scan_cases (finish : Position) (xs : List Located) :
    ∃ ts, (∀ t ∈ ts, t.kind ≠ .endOfFile) ∧
      (scan finish xs = { tokens := ts ++ [.endOfFile finish] } ∨
        ∃ e, scan finish xs = { tokens := ts, error := some e }) := by
  induction segmented xs with
  | nil => exact ⟨[], by simp, .inl (scan_nil _)⟩
  | spacing hc _ ih => rwa [scan_spacing hc]
  | @token c run xs σ hσ hrun hstop _ ih =>
    obtain ⟨ts, hts, h⟩ := ih
    refine ⟨Lexer.tokenOf σ c run :: ts, ?_, ?_⟩
    · exact List.forall_mem_cons.2 ⟨Spelling.kind_ne_endOfFile hσ _, hts⟩
    · rw [scan_token hσ hrun hstop]
      obtain h | ⟨e, h⟩ := h
      · exact .inl (by rw [h]; rfl)
      · exact .inr ⟨e, by rw [h]; rfl⟩
  | invalid hc hσ => exact ⟨[], by simp, .inr ⟨_, scan_invalid hc hσ⟩⟩

/-- The character that ends a scan early is no token of it. -/
theorem kind_ne_error_of_mem_scan {t : Token} (h : t ∈ (scan finish xs).tokens) :
    t.kind ≠ .error := by
  induction segmented xs with
  | nil =>
    rw [scan_nil] at h
    obtain rfl := List.mem_singleton.1 h
    exact nofun
  | spacing hc _ ih =>
    rw [scan_spacing hc] at h
    exact ih h
  | token hσ hrun hstop _ ih =>
    rw [scan_token hσ hrun hstop, tokens_behind] at h
    obtain rfl | h := List.mem_cons.1 h
    · exact Spelling.kind_ne_error hσ _
    · exact ih h
  | invalid hc hσ =>
    rw [scan_invalid hc hσ] at h
    cases h

theorem tokens_scan_ne_nil (finish : Position) (xs : List Located) :
    (scan finish xs).tokens ≠ [] ∨ (scan finish xs).error.isSome := by
  obtain ⟨ts, -, h | ⟨e, h⟩⟩ := scan_cases finish xs
  · exact .inl (by simp [h])
  · exact .inr (by simp [h])

/-- Characters that are no two neighbouring parts of a word. -/
def Apart (xs ys : List Located) : Prop :=
  ∀ c ∈ xs.getLast?, ∀ d ∈ ys.head?, isWordPart c.char = false ∨ isWordPart d.char = false

theorem Apart.tail (run : List Located) (h : Apart (run ++ xs) ys) : Apart xs ys := by
  intro c hc d hd
  refine h c ?_ d hd
  rw [List.getLast?_append, Option.mem_def.1 hc]
  rfl

/-- A token that ends in front of characters apart from it does not go on with them. -/
theorem Apart.stop (hσ : Spelling.of? c.char = some σ)
    (hrun : ∀ d ∈ run, σ.continues d.char = true) (h : Apart (c :: run) ys) :
    ∀ d ∈ ys.head?, σ.continues d.char = false := by
  intro d hd
  refine Bool.eq_false_iff.2 fun hcontinues => ?_
  have hlast : isWordPart ((c :: run).getLast (List.cons_ne_nil _ _)).char = true := by
    cases run with
    | nil => exact Spelling.isWordPart_of_of? hσ hcontinues
    | cons r rs =>
      rw [List.getLast_cons (List.cons_ne_nil _ _)]
      exact Spelling.isWordPart_of_continues hσ (hrun _ (List.getLast_mem _))
  obtain hc | hd := h _ (List.getLast?_eq_some_getLast (List.cons_ne_nil _ _)) d hd
  · simp [hlast] at hc
  · simp [Spelling.isWordPart_of_continues hσ hcontinues] at hd

/-- Characters apart are scanned one after the other, each as if they stood alone. -/
theorem scan_append (finish' : Position) (h : Apart xs ys) :
    scan finish (xs ++ ys) = (scan finish' xs).andThen (scan finish ys) := by
  induction segmented xs with
  | nil => simp [andThen, behind]
  | spacing hc _ ih =>
    rw [List.cons_append, scan_spacing hc, scan_spacing hc, ih (h.tail [_])]
  | @token c run xs σ hσ hrun hstop _ ih =>
    have hstop' : ∀ d ∈ (xs ++ ys).head?, σ.continues d.char = false := by
      cases xs with
      | nil => exact Apart.stop hσ hrun (by simpa using h)
      | cons d ds => exact hstop
    rw [List.cons_append, List.append_assoc, scan_token hσ hrun hstop', scan_token hσ hrun hstop,
      ih (h.tail (c :: run)), andThen_behind (tokens_scan_ne_nil _ _)]
  | invalid hc hσ =>
    rw [List.cons_append, scan_invalid hc hσ, scan_invalid hc hσ]
    rfl

end Lexed

end FrontEnd

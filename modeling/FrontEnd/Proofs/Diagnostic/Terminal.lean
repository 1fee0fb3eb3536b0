-- SUMMARY: A diagnostic on a terminal is its plain text with its notes, and colors add nothing but escape sequences.
import FrontEnd.Proofs.Output.Written
import FrontEnd.Proofs.Text.Visible

/-!
# Diagnostics with and without colors

Without colors the terminal shows the plain text of a diagnostic and a line for
each note (`plainText`). With colors there are escape sequences in between. A
terminal takes such a sequence for a command and shows the rest, and so does
`unstyled`, which reads from the left and drops every sequence that it meets.

A sequence is told by the escape character in front of it. The lexeme has none,
since it is escaped; where the message and the notes have none either, all that
is dropped are the sequences of the colors.
-/

namespace FrontEnd.Terminal

open Text Write

-- ---------------------------------------------------------------------------
-- Escape sequences
-- ---------------------------------------------------------------------------

/-- The character that starts a sequence. -/
def esc : Char := '\x1b'

/-- What may stand between the bracket and the last character of a sequence. -/
def isParameter (c : Char) : Bool :=
  c.isDigit || c = ';'

/-- What is behind the sequence that the characters begin with: an escape character, a bracket,
digits and semicolons, and an `m`. -/
def behindSequence? : List Char → Option (List Char)
  | '\x1b' :: '[' :: cs =>
    match cs.dropWhile isParameter with
    | 'm' :: rest => some rest
    | _ => none
  | _ => none

theorem length_behindSequence? {cs rest : List Char} (h : behindSequence? cs = some rest) :
    rest.length < cs.length := by
  unfold behindSequence? at h
  split at h
  · next cs =>
    split at h
    · next hdrop =>
      obtain rfl := Option.some.inj h
      have hle := (List.dropWhile_sublist isParameter (l := cs)).length_le
      rw [hdrop, List.length_cons] at hle
      simp only [List.length_cons]
      omega
    · cases h
  · cases h

/-- The characters without the sequences among them. -/
def unstyled (cs : List Char) : List Char :=
  match _h : behindSequence? cs with
  | some rest => unstyled rest
  | none =>
    match cs with
    | [] => []
    | c :: cs => c :: unstyled cs
termination_by cs.length
decreasing_by
  · exact length_behindSequence? _h
  · simp

theorem unstyled_nil : unstyled [] = [] := by
  rw [unstyled]
  rfl

theorem unstyled_of_behindSequence? {cs rest : List Char} (h : behindSequence? cs = some rest) :
    unstyled cs = unstyled rest := by
  rw [unstyled]
  split
  · next hrest => rw [Option.some.inj (hrest.symm.trans h)]
  · next hnone => cases hnone.symm.trans h

theorem unstyled_cons {c : Char} (hc : c ≠ esc) (cs : List Char) :
    unstyled (c :: cs) = c :: unstyled cs := by
  have hnone : behindSequence? (c :: cs) = none := by
    unfold behindSequence?
    split
    · next heq => exact absurd (List.cons.inj heq).1 hc
    · rfl
  rw [unstyled]
  split
  · next hsome => cases hsome.symm.trans hnone
  · rfl

theorem behindSequence?_sequence (style : Style) (rest : List Char) :
    behindSequence? (style.sequence.toList ++ rest) = some rest := by
  cases style <;> rfl

theorem behindSequence?_reset (rest : List Char) :
    behindSequence? (reset.toList ++ rest) = some rest := rfl

@[simp] theorem painted_false (style : Style) (s : String) : painted false style s = s := rfl

-- ---------------------------------------------------------------------------
-- What a terminal shows
-- ---------------------------------------------------------------------------

/-- Without its sequences the one text is the other one, whatever stands behind it. -/
def Shows (styled shown : String) : Prop :=
  ∀ rest, unstyled (styled.toList ++ rest) = shown.toList ++ unstyled rest

namespace Shows

variable {s s' t t' : String}

theorem append (hs : Shows s s') (ht : Shows t t') : Shows (s ++ t) (s' ++ t') := by
  intro rest
  rw [String.toList_append, String.toList_append, List.append_assoc, hs, ht, List.append_assoc]

/-- A text without escape characters shows itself. -/
theorem plain (h : esc ∉ s.toList) : Shows s s := by
  intro rest
  generalize s.toList = cs at h ⊢
  induction cs with
  | nil => rfl
  | cons c cs ih =>
    obtain ⟨hc, hcs⟩ : esc ≠ c ∧ esc ∉ cs := by simpa using h
    rw [List.cons_append, unstyled_cons hc.symm, ih hcs, List.cons_append]

theorem visible (h : Visible s) : Shows s s :=
  plain (h.not_mem (by decide))

/-- Painted text shows itself. -/
theorem painted (style : Style) (h : Visible s) : Shows (Terminal.painted true style s) s := by
  intro rest
  rw [Terminal.painted, if_pos rfl, String.toList_append, String.toList_append, List.append_assoc,
    List.append_assoc, unstyled_of_behindSequence? (behindSequence?_sequence style _), visible h,
    unstyled_of_behindSequence? (behindSequence?_reset rest)]

theorem join {α : Type} {f g : α → String} {as : List α} (h : ∀ a ∈ as, Shows (f a) (g a)) :
    Shows (String.join (as.map f)) (String.join (as.map g)) := by
  induction as with
  | nil => exact fun _ => rfl
  | cons a as ih =>
    obtain ⟨ha, has⟩ := List.forall_mem_cons.1 h
    rw [List.map_cons, List.map_cons, String.join_cons, String.join_cons]
    exact ha.append (ih has)

end Shows

-- ---------------------------------------------------------------------------
-- Diagnostics
-- ---------------------------------------------------------------------------

/-- The line of a note. -/
def noteLine (note : String) : String :=
  "  = note: " ++ note ++ "\n"

/-- The plain text of a diagnostic on its lines, and a line for each note. -/
def plainText (d : Diagnostic) : String :=
  d.display ++ "\n" ++ String.join (d.notes.map noteLine)

theorem noteText_false (note : String) : noteText false note = noteLine note := by
  apply String.toList_inj.1
  simp [noteText, noteLine, painted]

/-- Without colors the pieces that are painted are those of the plain text. -/
theorem text_false (d : Diagnostic) : text false d = plainText d := by
  have hnotes : noteText false = noteLine := funext noteText_false
  apply String.toList_inj.1
  cases hlocation : d.location with
  | none =>
    simp [text, plainText, hnotes, hlocation, Diagnostic.display, Diagnostic.locationLine,
      Diagnostic.errorLine, painted]
  | some l =>
    simp [text, plainText, hnotes, hlocation, Diagnostic.display, Diagnostic.locationLine,
      Diagnostic.errorLine, locationText, painted]

theorem shows_locationText (l : Location) : Shows (locationText true l) (locationText false l) := by
  have hlexeme := Shows.painted .bold (visible_escape l.lexeme)
  have hposition : Shows ("' " ++ l.position.describe ++ "\n") _ :=
    .append (.append (.plain (by decide)) (.visible (visible_describe _))) (.plain (by decide))
  rw [locationText, locationText, painted_false]
  exact .append (.append (.plain (by decide)) hlexeme) hposition

theorem shows_noteText {note : String} (h : esc ∉ note.toList) :
    Shows (noteText true note) (noteText false note) := by
  have hlabel : Shows ("  = " ++ painted true .note "note") ("  = " ++ "note") :=
    .append (.plain (by decide)) (.painted .note (by decide))
  have hnote : Shows (": " ++ note ++ "\n") _ :=
    .append (.append (.plain (by decide)) (.plain h)) (.plain (by decide))
  rw [noteText, noteText, painted_false]
  exact hlabel.append hnote

/-- Whatever the lexeme, the colors show the text without them. -/
theorem shows_text {d : Diagnostic} (hmessage : esc ∉ d.message.toList)
    (hnotes : ∀ note ∈ d.notes, esc ∉ note.toList) : Shows (text true d) (text false d) := by
  have hlocation : Shows ((d.location.map (locationText true)).getD "")
      ((d.location.map (locationText false)).getD "") := by
    cases d.location with
    | none => exact fun _ => rfl
    | some l => exact shows_locationText l
  have herror : Shows (painted true .error "error") "error" := .painted .error (by decide)
  have hcode : Visible ("[" ++ d.code.text ++ "]") :=
    .append (.append (by decide) (visible_codeText d.code)) (by decide)
  have hmessage : Shows (": " ++ d.message ++ "\n") _ :=
    .append (.append (.plain (by decide)) (.plain hmessage)) (.plain (by decide))
  have hnotes := Shows.join fun note hnote => shows_noteText (hnotes note hnote)
  rw [text, text, painted_false, painted_false]
  exact (((hlocation.append herror).append (.painted .bold hcode)).append hmessage).append hnotes

/-- Without colors a diagnostic is written as its plain text, a newline, and a line for each note in
order. Where no escape character is in the message or in a note, what is written with colors is the
same, but for the escape sequences. -/
theorem emit_shows (d : Diagnostic) :
    emit false d = put (d.display ++ "\n" ++
      String.join (d.notes.map fun note => "  = note: " ++ note ++ "\n")) ∧
    ((∀ s ∈ d.message :: d.notes, '\x1b' ∉ s.toList) →
      ∃ styled : String, emit true d = put styled ∧
        String.ofList (unstyled styled.toList) = d.display ++ "\n" ++
          String.join (d.notes.map fun note => "  = note: " ++ note ++ "\n")) := by
  have hplain := text_false d
  refine ⟨?_, fun h => ⟨text true d, emit_eq_put true d, ?_⟩⟩
  · rw [emit_eq_put, hplain]
    rfl
  · obtain ⟨hmessage, hnotes⟩ := List.forall_mem_cons.1 h
    have hshows := shows_text hmessage hnotes []
    rw [List.append_nil, unstyled_nil, List.append_nil, hplain] at hshows
    rw [hshows, String.ofList_toList]
    rfl

/-- A lexeme that looks like a sequence is escaped, and a message that looks like the rest of one is
left alone. -/
theorem emit_shows_escaped :
    (∀ s ∈ ["invalid token [0m", "found nothing"], '\x1b' ∉ s.toList) ∧
      ∃ styled : String,
        emit true ⟨.invalidCharacter, "invalid token [0m", some ⟨"\x1b[1m", ⟨1, 2⟩⟩,
          ["found nothing"]⟩ = put styled ∧
        String.ofList (unstyled styled.toList) =
          "Error on '\\u\x7b1b\x7d[1m' line 1 column 2\nerror[E0001]: invalid token [0m\n" ++
            "  = note: found nothing\n" := by
  have hplain : ∀ s ∈ ["invalid token [0m", "found nothing"], '\x1b' ∉ s.toList := by decide
  obtain ⟨styled, hstyled, hshown⟩ := (emit_shows ⟨.invalidCharacter, "invalid token [0m",
    some ⟨"\x1b[1m", ⟨1, 2⟩⟩, ["found nothing"]⟩).2 hplain
  exact ⟨hplain, styled, hstyled, hshown.trans (by rfl)⟩

end FrontEnd.Terminal

-- SUMMARY: Whatever is put together from writes does what one write of its whole text does.
import FrontEnd.Check

/-!
# Written texts

A trace, a report and a check are written piece by piece, and a failure may
strike inside any piece. But a device does not tell pieces from the text that
they make up (`Write.put_append`). So each of these actions is one write of one
text, on every device, and what is left of it on a full one is the front of
that text.
-/

namespace FrontEnd

-- ---------------------------------------------------------------------------
-- Loops
-- ---------------------------------------------------------------------------

namespace Write

variable {α : Type} {f : α → Write PUnit} {text : α → String}

theorem forM_list_eq_put (h : ∀ a, f a = put (text a)) (as : List α) :
    as.forM f = put (String.join (as.map text)) := by
  induction as with
  | nil => exact put_empty.symm
  | cons a as ih =>
    rw [List.map_cons, String.join_cons, put_append, ← ih, ← h]
    rfl

theorem forM_option_eq_put (h : ∀ a, f a = put (text a)) (a? : Option α) :
    a?.forM f = put ((a?.map text).getD "") := by
  cases a? with
  | none => exact put_empty.symm
  | some a => exact h a

theorem contents_of_put {text : String} {d d' : Device} (h : put text d = .ok () d') :
    d'.contents = d.contents ++ text.toUTF8 := by
  unfold put putBytes at h
  split at h
  · cases h; rfl
  · split at h
    · cases h; rfl
    · cases h

end Write

open Write

-- ---------------------------------------------------------------------------
-- Traces
-- ---------------------------------------------------------------------------

namespace Trace

/-- The header, a blank line, and a row for each token. -/
def text (ts : Tokens) : String :=
  header ++ "\n" ++ "\n" ++ String.join (ts.map fun t => row t ++ "\n")

theorem write_eq_put (ts : Tokens) : write ts = put (text ts) := by
  have hrows : ts.forM writeRow = put (String.join (ts.map fun t => row t ++ "\n")) :=
    forM_list_eq_put (fun _ => rfl) ts
  simp only [write, writeHeader, putLine, text, hrows, put_append, bind_assoc]

end Trace

-- ---------------------------------------------------------------------------
-- Reports for people
-- ---------------------------------------------------------------------------

namespace Terminal

def painted (colors : Bool) (style : Style) (text : String) : String :=
  if colors then style.sequence ++ text ++ reset else text

def locationText (colors : Bool) (location : Location) : String :=
  "Error on '" ++ painted colors .bold (Text.escape location.lexeme) ++
    ("' " ++ location.position.describe ++ "\n")

def noteText (colors : Bool) (note : String) : String :=
  "  = " ++ painted colors .note "note" ++ (": " ++ note ++ "\n")

/-- The lines of a diagnostic. -/
def text (colors : Bool) (d : Diagnostic) : String :=
  (d.location.map (locationText colors)).getD "" ++ painted colors .error "error" ++
    painted colors .bold ("[" ++ d.code.text ++ "]") ++ (": " ++ d.message ++ "\n") ++
    String.join (d.notes.map (noteText colors))

theorem paint_eq_put (colors : Bool) (style : Style) (text : String) :
    paint colors style text = put (painted colors style text) := by
  unfold paint painted
  split
  · simp only [put_append, bind_assoc]
  · rfl

theorem writeLocation_eq_put (colors : Bool) (location : Location) :
    writeLocation colors location = put (locationText colors location) := by
  simp only [writeLocation, locationText, putLine, paint_eq_put, put_append, bind_assoc]

theorem writeNote_eq_put (colors : Bool) (note : String) :
    writeNote colors note = put (noteText colors note) := by
  simp only [writeNote, noteText, putLine, paint_eq_put, put_append, bind_assoc]

theorem emit_eq_put (colors : Bool) (d : Diagnostic) : emit colors d = put (text colors d) := by
  have hlocation := forM_option_eq_put (writeLocation_eq_put colors) d.location
  have hnotes := forM_list_eq_put (writeNote_eq_put colors) d.notes
  simp only [emit, text, hlocation, hnotes, putLine, paint_eq_put, put_append, bind_assoc]

end Terminal

-- ---------------------------------------------------------------------------
-- Reports for programs
-- ---------------------------------------------------------------------------

namespace JsonArray

open Text

/-- A member on its line. -/
def memberText (name value : String) : String :=
  "    \"" ++ name ++ "\": " ++ value

def locationText (location : Option Location) : String :=
  let value (f : Location → String) := (location.map f).getD "null"
  memberText "lexeme" (value (jsonString ·.lexeme)) ++ ",\n" ++
    memberText "line" (value (·.position.line.toNat.repr)) ++ ",\n" ++
    memberText "column" (value (·.position.column.toNat.repr))

def notesText (notes : List String) : String :=
  memberText "notes" ("[" ++ ", ".intercalate (notes.map jsonString) ++ "]")

def elementText (d : Diagnostic) : String :=
  "  \x7b\n" ++ memberText "code" ("\"" ++ d.code.text ++ "\"") ++ ",\n" ++
    memberText "message" (jsonString d.message) ++ ",\n" ++ locationText d.location ++ ",\n" ++
    notesText d.notes ++ "\n  \x7d"

/-- What stands in front of an element. -/
def separator (isEmpty : Bool) : String :=
  if isEmpty then "" else ",\n"

/-- The elements, which are the first of the array or not. -/
def elementsText : Bool → List Diagnostic → String
  | _, [] => ""
  | isEmpty, d :: ds => separator isEmpty ++ elementText d ++ elementsText false ds

def arrayText (ds : List Diagnostic) : String :=
  "[\n" ++ elementsText true ds ++ (if ds.isEmpty then "]" else "\n]") ++ "\n"

theorem writeMember_eq_put (name value : String) :
    writeMember name value = put (memberText name value ++ ",\n") := by
  simp only [writeMember, putLine, memberText, String.append_assoc]
  rfl

theorem writeLocation_eq_put (location : Option Location) :
    writeLocation location = put (locationText location ++ ",\n") := by
  simp only [writeLocation, writeMember_eq_put, locationText, put_append, bind_assoc]

theorem writeNotes_eq_put (notes : List String) :
    writeNotes notes = put (notesText notes ++ "\n") := by
  have hname : "    \"notes\": [" = "    \"" ++ "notes" ++ "\": " ++ "[" := rfl
  rw [writeNotes, putLine, notesText, memberText, hname]
  simp only [String.append_assoc]

theorem writeElement_eq_put (d : Diagnostic) : writeElement d = put (elementText d) := by
  have hopen : "  \x7b\n" = "  \x7b" ++ "\n" := rfl
  have hclose : "\n  \x7d" = "\n" ++ "  \x7d" := rfl
  simp only [writeElement, writeMember_eq_put, writeLocation_eq_put, writeNotes_eq_put,
    putLine, elementText, hopen, hclose, put_append, bind_assoc]

/-- How an action ends, for the device alone. -/
def onDeviceAlone : EStateM.Result WriteFailure JsonArray Unit →
    EStateM.Result WriteFailure Device Unit
  | .ok () a => .ok () a.device
  | .error e a => .error e a.device

/-- On an array that is empty or not, the action writes one text, and where it succeeds it leaves
the array empty or not. -/
structure Puts (action : Action) (isEmpty : Bool) (text : String) (isEmpty' : Bool) : Prop where
  device (d : Device) : onDeviceAlone (action ⟨d, isEmpty⟩) = put text d
  isEmpty {d : Device} {a : JsonArray} (h : action ⟨d, isEmpty⟩ = .ok () a) : a.isEmpty = isEmpty'

namespace Puts

variable {m n : Action} {a b c : Bool} {s t : String}

theorem onDevice (s : String) (b : Bool) : Puts (onDevice (put s)) b s b where
  device d := by
    cases h : put s d <;> simp [JsonArray.onDevice, h, onDeviceAlone]
  isEmpty {d a} h := by
    cases hput : put s d with
    | ok _ d' =>
      simp only [JsonArray.onDevice, hput] at h
      cases h
      rfl
    | error e d' => simp [JsonArray.onDevice, hput] at h

theorem bind (hm : Puts m a s b) (hn : Puts n b t c) : Puts (do m; n) a (s ++ t) c := by
  constructor
  case device =>
    intro d
    have hdevice := hm.device d
    rw [put_append]
    cases h : m ⟨d, a⟩ with
    | ok _ x =>
      rw [h] at hdevice
      have hx : x = ⟨x.device, b⟩ := by rw [← hm.isEmpty h]
      simp only [Bind.bind, EStateM.bind, h, ← hdevice, onDeviceAlone]
      rw [hx]
      exact hn.device x.device
    | error e x =>
      rw [h] at hdevice
      simp only [Bind.bind, EStateM.bind, h, ← hdevice, onDeviceAlone]
  case isEmpty =>
    intro d x h
    cases hd : m ⟨d, a⟩ with
    | ok _ y =>
      have hy : y = ⟨y.device, b⟩ := by rw [← hm.isEmpty hd]
      simp only [Bind.bind, EStateM.bind, hd] at h
      rw [hy] at h
      exact hn.isEmpty h
    | error e y => simp [Bind.bind, EStateM.bind, hd] at h

theorem pure (b : Bool) : Puts (pure ()) b "" b where
  device d := by
    rw [put_empty]
    rfl
  isEmpty h := by
    cases h
    rfl

/-- Once an element was begun the array is not empty. -/
theorem begin (b : Bool) : Puts (modify ({ · with isEmpty := false })) b "" false where
  device d := by
    rw [put_empty]
    rfl
  isEmpty h := by
    cases h
    rfl

theorem get_bind {f : JsonArray → Action} (h : ∀ d, Puts (f ⟨d, a⟩) a s b) :
    Puts (get >>= f) a s b where
  device d := (h d).device d
  isEmpty {d _} hok := (h d).isEmpty hok

end Puts

theorem puts_add (d : Diagnostic) (b : Bool) :
    Puts (add d) b (separator b ++ elementText d) false := by
  have helement : Puts (JsonArray.onDevice (writeElement d)) false (elementText d) false := by
    rw [writeElement_eq_put]
    exact .onDevice _ _
  have hbegin (b : Bool) := (Puts.begin b).bind helement
  simp only [String.empty_append] at hbegin
  refine .get_bind fun _ => ?_
  cases b with
  | true =>
    have hfirst : separator true ++ elementText d = elementText d := String.empty_append
    rw [hfirst]
    exact hbegin true
  | false => exact (Puts.onDevice ",\n" false).bind (hbegin false)

theorem puts_forM_add (ds : List Diagnostic) (b : Bool) :
    Puts (ds.forM add) b (elementsText b ds) (b && ds.isEmpty) := by
  induction ds generalizing b with
  | nil =>
    rw [List.isEmpty_nil, Bool.and_true]
    exact .pure b
  | cons d ds ih =>
    rw [List.isEmpty_cons, Bool.and_false]
    exact (puts_add d b).bind (ih false)

/-- A whole array: its start, its elements and its end. -/
def whole (ds : List Diagnostic) : Action := do
  start
  ds.forM add
  finish

theorem puts_start (b : Bool) : Puts start b "[\n" b :=
  .onDevice "[\n" b

theorem puts_finish (b : Bool) : Puts finish b ((if b then "]" else "\n]") ++ "\n") b :=
  .get_bind fun _ => .onDevice _ _

theorem puts_flush (b : Bool) : Puts flush b "" b := by
  rw [flush, Write.flush, ← put_empty]
  exact .onDevice "" b

theorem puts_whole (ds : List Diagnostic) : Puts (whole ds) true (arrayText ds) ds.isEmpty := by
  have hwhole := (puts_start true).bind ((puts_forM_add ds true).bind (puts_finish _))
  rwa [← String.append_assoc, ← String.append_assoc] at hwhole

/-- To flush an array that is whole adds nothing to it. -/
theorem write_eq_put (ds : List Diagnostic) : write ds = put (arrayText ds) := by
  have haction : (do start; ds.forM add; finish; flush : Action) = (do whole ds; flush) := by
    simp only [whole, bind_assoc]
  funext d
  have hdevice := ((puts_whole ds).bind (puts_flush _)).device d
  rw [String.append_empty, ← haction] at hdevice
  exact hdevice

end JsonArray

-- ---------------------------------------------------------------------------
-- What a check ends with
-- ---------------------------------------------------------------------------

namespace Diagnostic

/-- The report of a diagnostic, set off by a blank line where it is for people. -/
def reportText (d : Diagnostic) (format : ReportFormat) (colors : Bool) : String :=
  match format with
  | .human => "\n" ++ Terminal.text colors d
  | .json => JsonArray.arrayText [d]

theorem report_eq_put (d : Diagnostic) (format : ReportFormat) (colors : Bool) :
    d.report format colors = put (d.reportText format colors) := by
  cases format with
  | human =>
    simp only [report, reportText, Terminal.emit_eq_put, put_append, flush, bind_pure_unit]
  | json => exact JsonArray.write_eq_put [d]

end Diagnostic

namespace Problem

def reportText (p : Problem) (o : Options) (terminal : Bool) : String :=
  p.reported.reportText o.errorFormat (o.color.enabled terminal)

theorem report_eq_put (p : Problem) (o : Options) (terminal : Bool) :
    p.report o terminal = put (p.reportText o terminal) :=
  p.reported.report_eq_put _ _

/-- The report of the problem if there is one. -/
def closingText (p : Option Problem) (o : Options) (terminal : Bool) : String :=
  (p.map (·.reportText o terminal)).getD ""

end Problem

theorem conclude_eq_put (p : Option Problem) (o : Options) (terminal : Bool) :
    conclude p o terminal = (do
      put (Problem.closingText p o terminal)
      return Exit.ofProblem? p) := by
  have hreport := forM_option_eq_put (fun p : Problem => p.report_eq_put o terminal) p
  rw [conclude, hreport, Problem.closingText]

end FrontEnd

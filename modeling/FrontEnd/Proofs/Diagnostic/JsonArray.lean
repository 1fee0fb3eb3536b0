-- SUMMARY: A JSON array of diagnostics denotes them, so it tells any two lists of diagnostics apart.
import FrontEnd.Proofs.Json.Decoding
import FrontEnd.Proofs.Json.Spelling
import FrontEnd.Proofs.Output.Unfailing

/-!
# The JSON array of diagnostics

Written to its end, the array leaves one text on the device (`contents_of_whole`).
The text is put together as the writer does it, and read as the grammar of JSON
does: the line breaks and the indentation of the writer are the blanks around
values, and the comma in front of an element is the one behind the element before.
So the text denotes an array with an object for each diagnostic, in order.
-/

namespace FrontEnd

open Json Text

/-- A diagnostic as a value of JSON. -/
def Diagnostic.json (d : Diagnostic) : Value :=
  let located (f : Location → Value) := (d.location.map f).getD .null
  .object [
    ("code", .string d.code.text),
    ("message", .string d.message),
    ("lexeme", located (.string ·.lexeme)),
    ("line", located (.number ·.position.line.toNat)),
    ("column", located (.number ·.position.column.toNat)),
    ("notes", .array (d.notes.map .string))]

theorem Code.text_injective {c c' : Code} (h : c.text = c'.text) : c = c' := by
  cases c <;> cases c' <;> first | rfl | exact absurd h (by decide)

/-- The value of a diagnostic keeps all of it. -/
theorem Diagnostic.json_injective {d d' : Diagnostic} (h : d.json = d'.json) : d = d' := by
  obtain ⟨code, message, location, notes⟩ := d
  obtain ⟨code', message', location', notes'⟩ := d'
  simp only [json, Value.object.injEq, List.cons.injEq, Prod.mk.injEq, true_and, and_true,
    Value.string.injEq, Value.array.injEq] at h
  obtain ⟨hcode, hmessage, hlexeme, hline, hcolumn, hnotes⟩ := h
  have hlocation : location = location' := by
    cases location with
    | none =>
      cases location' with
      | none => rfl
      | some l' => cases hlexeme
    | some l =>
      cases location' with
      | none => cases hlexeme
      | some l' =>
        obtain ⟨lexeme, line, column⟩ := l
        obtain ⟨lexeme', line', column'⟩ := l'
        simp only [Option.map_some, Option.getD_some, Value.string.injEq, Value.number.injEq,
          Rat.natCast_inj, UInt32.toNat_inj] at hlexeme hline hcolumn
        rw [hlexeme, hline, hcolumn]
  rw [Code.text_injective hcode, hmessage, hlocation,
    (List.map_inj_right fun _ _ => Value.string.inj).1 hnotes]

namespace JsonArray

/-- A whole array, once written, is this text. -/
theorem contents_of_whole {ds : List Diagnostic} {d : Device} {a : JsonArray}
    (h : whole ds { device := d } = .ok () a) :
    a.device.contents = d.contents ++ (arrayText ds).toUTF8 := by
  have hdevice := (puts_whole ds).device d
  rw [h] at hdevice
  exact Write.contents_of_put hdevice.symm

-- ---------------------------------------------------------------------------
-- What it denotes
-- ---------------------------------------------------------------------------

/-- A member of an object, behind the line break in front of it. -/
theorem spells_member (name : String) {value : String} {v : Value} {after : List Char}
    (hname : name.toList.all isPlain = true) (hvalue : Spells (.value v) value.toList)
    (hafter : Blanks after) :
    Spells (.member (name, v)) ('\n' :: (memberText name value).toList ++ after) := by
  have hindent : Blanks "\n    ".toList := by decide
  have hgap : Blanks [' '] := by decide
  have hmember := Spells.named hindent (spells_plain hname) blanks_nil
    (.padded hgap hvalue hafter)
  simpa [memberText] using hmember

/-- What is told about the location, or null. -/
theorem spells_located {value : Location → Value} {text : Location → String}
    (h : ∀ l, Spells (.value (value l)) (text l).toList) (location : Option Location) :
    Spells (.value ((location.map value).getD .null))
      ((location.map text).getD "null").toList := by
  cases location with
  | none => simpa using Spells.literalNull
  | some l => exact h l

theorem spells_notes (notes : List String) :
    Spells (.value (.array (notes.map .string)))
      ("[" ++ ", ".intercalate (notes.map jsonString) ++ "]").toList := by
  cases notes with
  | nil => exact .emptyArray blanks_nil
  | cons note notes =>
    have hnote : ∀ s, Spells (.padded (.string s)) (jsonString s).toList := fun s => by
      simpa using Spells.padded blanks_nil (.string (spells_jsonString s)) blanks_nil
    have hgap : Blanks [' '] := by decide
    have helements := spells_intercalate hnote hgap note notes blanks_nil blanks_nil
    simpa [Function.comp_def] using Spells.array helements

/-- The line break in front of a member is among the blanks there, and the last one stands behind
the value of the last member. -/
theorem spells_element (d : Diagnostic) : Spells (.padded d.json) (elementText d).toList := by
  have hafter : Blanks "\n  ".toList := by decide
  have hcode : Spells (.value (.string d.code.text)) ("\"" ++ d.code.text ++ "\"").toList :=
    .string (spells_plain (by cases d.code <;> decide))
  have hline := spells_located (fun l => .number (spells_repr l.position.line.toNat)) d.location
  have hcolumn := spells_located (fun l => .number (spells_repr l.position.column.toNat)) d.location
  have hlexeme := spells_located (fun l => .string (spells_jsonString l.lexeme)) d.location
  have hmembers := Spells.members (spells_member "code" rfl hcode blanks_nil)
    (.members (spells_member "message" rfl (.string (spells_jsonString d.message)) blanks_nil)
    (.members (spells_member "lexeme" rfl hlexeme blanks_nil)
    (.members (spells_member "line" rfl hline blanks_nil)
    (.members (spells_member "column" rfl hcolumn blanks_nil)
    (.member (spells_member "notes" rfl (spells_notes d.notes) hafter))))))
  have hindent : Blanks [' ', ' '] := by decide
  have hobject := Spells.padded hindent (.object hmembers) blanks_nil
  simpa [Diagnostic.json, elementText, locationText, notesText] using hobject

theorem elementsText_cons (isEmpty : Bool) (d : Diagnostic) (ds : List Diagnostic) :
    elementsText isEmpty (d :: ds) =
      separator isEmpty ++ ",\n".intercalate ((d :: ds).map elementText) := by
  induction ds generalizing isEmpty d with
  | nil => simp [elementsText]
  | cons d' ds ih =>
    rw [elementsText, ih]
    simp [separator, String.append_assoc]

/-- The text of an array denotes the array of its elements. -/
theorem denotes_arrayText (ds : List Diagnostic) :
    Denotes (arrayText ds) (.array (ds.map Diagnostic.json)) := by
  have hbreak : Blanks ['\n'] := by decide
  unfold Denotes
  cases ds with
  | nil => exact .padded blanks_nil (.emptyArray hbreak) hbreak
  | cons d ds =>
    have helements := spells_intercalate spells_element hbreak d ds hbreak hbreak
    have harray := Spells.padded blanks_nil (.array helements) hbreak
    simpa [arrayText, elementsText_cons, separator, Function.comp_def] using harray

/-- The array of other diagnostics has another text. -/
theorem arrayText_injective {ds ds' : List Diagnostic} (h : arrayText ds = arrayText ds') :
    ds = ds' := by
  have hdenotes := denotes_arrayText ds'
  rw [← h] at hdenotes
  have hvalues := (denotes_arrayText ds).unique hdenotes
  exact (List.map_inj_right fun _ _ => Diagnostic.json_injective).1 (Value.array.inj hvalues)

/-- On a device that takes any number of bytes an array is written to its end. Once it is, on that
device or another, it is one JSON text, whose only value is the array of the diagnostics in order;
and no other diagnostics leave the same bytes. -/
theorem whole_denotes (ds : List Diagnostic) :
    ∃ text : String,
      (∀ v, Denotes text v ↔ v = .array (ds.map Diagnostic.json)) ∧
      (∀ d : Device, d.Endless → ∃ a, whole ds { device := d } = .ok () a) ∧
      (∀ (d : Device) (a : JsonArray), whole ds { device := d } = .ok () a →
        a.device.contents = d.contents ++ text.toUTF8) ∧
      ∀ (ds' : List Diagnostic) (d : Device) (a a' : JsonArray),
        whole ds { device := d } = .ok () a → whole ds' { device := d } = .ok () a' →
        a'.device.contents = a.device.contents → ds' = ds := by
  refine ⟨arrayText ds, fun v => ⟨fun hv => ?_, ?_⟩, fun d hd => ?_, fun _ _ => contents_of_whole,
    fun ds' d a a' ha ha' hsame => ?_⟩
  · exact hv.unique (denotes_arrayText ds)
  · rintro rfl
    exact denotes_arrayText ds
  · obtain ⟨_, a, ha, -⟩ := unfailing_whole ds { device := d } hd
    exact ⟨a, ha⟩
  · rw [contents_of_whole ha, contents_of_whole ha', ByteArray.append_right_inj,
      String.toUTF8_eq_toByteArray, String.toUTF8_eq_toByteArray, String.toByteArray_inj] at hsame
    exact arrayText_injective hsame

/-- Quotes, a tab and a control character without a name come back as they were. -/
theorem whole_denotes_unexpectedToken :
    ∃ (a : JsonArray) (text : String),
      whole [⟨.unexpectedToken, "after \"(\"", some ⟨"\x85", ⟨2, 7⟩⟩, ["a\tb", ""]⟩]
        { device := {} } = .ok () a ∧
      a.device.contents = text.toUTF8 ∧
      Denotes text (.array [.object [("code", .string "E1001"),
        ("message", .string "after \"(\""), ("lexeme", .string "\x85"), ("line", .number 2),
        ("column", .number 7), ("notes", .array [.string "a\tb", .string ""])]]) := by
  obtain ⟨text, hdenotes, hwritten, hcontents, -⟩ := whole_denotes _
  obtain ⟨a, ha⟩ := hwritten {} rfl
  exact ⟨a, text, ha, by simpa using hcontents {} a ha, (hdenotes _).2 (by rfl)⟩

end JsonArray

end FrontEnd

-- SUMMARY: Diagnostics on a device that fills up: whatever steps are taken, the front of their texts is kept, and a step fails when its text does not fit.
import FrontEnd.Proofs.Run.Limited

/-!
# Diagnostics on devices that fill up

A writer of diagnostics is used step by step, and whoever uses it may go on after
a step that failed. The next step then begins with what the failed one left: a
device without any room, and for an array also whether an element was begun.

Each step is one write of one text. On a device that is full the next text leaves
nothing, and to write nothing does not fail, so what is left of many texts is what
is left of all of them written at once (`Write.after_append`). What an array
remembers does not depend on whether its steps fail, so neither do the texts.
-/

namespace FrontEnd

-- ---------------------------------------------------------------------------
-- Actions in turn
-- ---------------------------------------------------------------------------

/-- How an action ends. -/
abbrev Ending (σ : Type) := EStateM.Result WriteFailure σ Unit

namespace Ending

variable {σ : Type}

/-- The state that is left. -/
def left : Ending σ → σ
  | .ok _ s => s
  | .error _ s => s

def failed : Ending σ → Bool
  | .ok .. => false
  | .error .. => true

end Ending

open Ending

/-- How some actions end that are taken one after the other, each from the state that the one before
it left, whether or not that one failed. -/
def endings {σ : Type} : List (EStateM WriteFailure σ Unit) → σ → List (Ending σ)
  | [], _ => []
  | m :: ms, s => m s :: endings ms (left (m s))

namespace Write

variable {t u : String} {us : List String} {d : Device} {n : Nat}

/-- What a text leaves of a device. -/
def after (text : String) (d : Device) : Device :=
  left (put text d)

theorem after_of_endless (text : String) (hd : d.Endless) :
    after text d = { d with contents := d.contents ++ text.toUTF8 } := by
  rw [after, put_of_endless text hd]
  rfl

theorem after_of_room (text : String) (hroom : d.room = some n) :
    after text d = filled text n d := by
  unfold after put putBytes
  rw [hroom]
  by_cases h : text.toUTF8.size ≤ n
  · simp only [if_pos h, left, filled, extract_of_size_le h]
  · simp only [if_neg h, left, filled, Nat.sub_eq_zero_of_le (Nat.le_of_not_le h)]

/-- Two texts one after the other leave the same as both at once, also where the first one fails. -/
theorem after_append (t u : String) (d : Device) : after (t ++ u) d = after u (after t d) := by
  have hbytes : (t ++ u).toUTF8 = t.toUTF8 ++ u.toUTF8 := by
    simp
  cases hroom : d.room with
  | none =>
    have hd : d.Endless := hroom
    have hd' : (after t d).Endless := by rwa [after_of_endless t hd]
    rw [after_of_endless u hd', after_of_endless t hd, after_of_endless _ hd, hbytes,
      ByteArray.append_assoc]
  | some n =>
    rw [after_of_room t hroom, after_of_room _ hroom, after_of_room u rfl, filled, hbytes]
    simp [filled, ByteArray.extract_append, ByteArray.append_assoc, Nat.sub_sub]

theorem failed_put_iff (hroom : d.room = some n) :
    failed (put u (after t d)) = true ↔ u ≠ "" ∧ n < (t ++ u).toUTF8.size := by
  have hsize : (t ++ u).toUTF8.size = t.toUTF8.size + u.toUTF8.size := by simp
  have hempty : u = "" ↔ u.toUTF8.size = 0 := by
    simp
  have hfailed : failed (put u (filled t n d)) = true ↔ n - t.toUTF8.size < u.toUTF8.size := by
    simp only [put, putBytes, filled]
    by_cases h : u.toUTF8.size ≤ n - t.toUTF8.size
    · rw [if_pos h]
      exact iff_of_false Bool.false_ne_true (Nat.not_lt.2 h)
    · rw [if_neg h]
      exact iff_of_true rfl (Nat.lt_of_not_le h)
  rw [after_of_room t hroom, hfailed, hsize, ne_eq, hempty]
  omega

/-- A text is written where those before it have left the device. -/
theorem getElem?_endings_put (us : List String) (d : Device) (j : Nat) :
    (endings (us.map put) d)[j]? =
      us[j]?.map fun u => put u (after (String.join (us.take j)) d) := by
  induction us generalizing d j with
  | nil => rfl
  | cons u us ih =>
    cases j with
    | zero =>
      have hnone : after "" d = d := by
        rw [after, put_empty]
        rfl
      rw [List.take_zero, String.join_nil, hnone]
      rfl
    | succ j =>
      rw [List.map_cons, endings, List.getElem?_cons_succ, ih, List.take_succ_cons,
        String.join_cons, after_append]
      rfl

end Write

-- ---------------------------------------------------------------------------
-- Texts and what is kept of them
-- ---------------------------------------------------------------------------

/-- The bytes of the texts up to the one with this index. -/
def written (us : List String) (j : Nat) : ByteArray :=
  (String.join (us.take (j + 1))).toUTF8

/-- Steps that end like this on a device write these texts, one each, and none of them fails. -/
structure Writes (us : List String) (es : List (Ending Device)) : Prop where
  length : es.length = us.length
  succeeds : ∀ (j : Nat) (e : Ending Device), es[j]? = some e → failed e = false
  contents : ∀ (j : Nat) (e : Ending Device), es[j]? = some e → (left e).contents = written us j

/-- Steps that end like this on a device keep the first `n` bytes of these texts, and a step fails
when it has something to write and the texts up to its own are longer than that. -/
structure FillsUp (n : Nat) (us : List String) (es : List (Ending Device)) : Prop where
  length : es.length = us.length
  contents : ∀ (j : Nat) (e : Ending Device), es[j]? = some e →
    (left e).contents = (written us j).extract 0 (min n (written us j).size)
  fails : ∀ (j : Nat) (e : Ending Device) (u : String), es[j]? = some e → us[j]? = some u →
    (failed e = true ↔ u ≠ "" ∧ n < (written us j).size)

namespace Write

theorem length_endings {σ : Type} (ms : List (EStateM WriteFailure σ Unit)) (s : σ) :
    (endings ms s).length = ms.length := by
  induction ms generalizing s with
  | nil => rfl
  | cons m ms ih => simp [endings, ih]

theorem join_take_succ {us : List String} {j : Nat} {u : String} (h : us[j]? = some u) :
    String.join (us.take (j + 1)) = String.join (us.take j) ++ u := by
  rw [List.take_add_one, h, String.join_append]
  simp

theorem exists_of_endings_put {us : List String} {d : Device} {j : Nat} {e : Ending Device}
    (h : (endings (us.map put) d)[j]? = some e) :
    ∃ u, us[j]? = some u ∧ e = put u (after (String.join (us.take j)) d) ∧
      left e = after (String.join (us.take (j + 1))) d := by
  rw [getElem?_endings_put, Option.map_eq_some_iff] at h
  obtain ⟨u, hu, rfl⟩ := h
  refine ⟨u, hu, rfl, ?_⟩
  rw [join_take_succ hu, after_append]
  rfl

theorem writes_put (us : List String) : Writes us (endings (us.map put) {}) := by
  have hd : Device.Endless {} := rfl
  constructor
  case length => rw [length_endings, List.length_map]
  case succeeds =>
    intro j e he
    obtain ⟨u, -, rfl, -⟩ := exists_of_endings_put he
    have hafter : (after (String.join (us.take j)) {}).Endless := by rwa [after_of_endless _ hd]
    rw [put_of_endless u hafter]
    rfl
  case contents =>
    intro j e he
    obtain ⟨u, -, -, hleft⟩ := exists_of_endings_put he
    rw [hleft, after_of_endless _ hd]
    exact ByteArray.empty_append

theorem fillsUp_put (n : Nat) (reason : String) (us : List String) :
    FillsUp n us (endings (us.map put) (.limited n reason)) := by
  have hroom : (Device.limited n reason).room = some n := rfl
  constructor
  case length => rw [length_endings, List.length_map]
  case contents =>
    intro j e he
    obtain ⟨u, -, -, hleft⟩ := exists_of_endings_put he
    rw [hleft, after_of_room _ hroom, contents_filled_limited, extract_min_size]
    rfl
  case fails =>
    intro j e u he hu
    obtain ⟨u', hu', rfl, -⟩ := exists_of_endings_put he
    obtain rfl : u = u' := Option.some.inj (hu.symm.trans hu')
    rw [failed_put_iff hroom, ← join_take_succ hu]
    rfl

end Write

open Write

-- ---------------------------------------------------------------------------
-- Terminals
-- ---------------------------------------------------------------------------

namespace Terminal

/-- What a writer of diagnostics for a terminal can be asked for. -/
inductive Step where
  | emit (d : Diagnostic)
  | flush
deriving DecidableEq, Repr

namespace Step

def perform (colors : Bool) : Step → Write Unit
  | emit d => Terminal.emit colors d
  | flush => Write.flush

def text (colors : Bool) : Step → String
  | emit d => Terminal.text colors d
  | flush => ""

theorem perform_eq_put (colors : Bool) (x : Step) : x.perform colors = put (x.text colors) := by
  cases x with
  | emit d => exact emit_eq_put colors d
  | flush => exact put_empty.symm

end Step

end Terminal

-- ---------------------------------------------------------------------------
-- Arrays
-- ---------------------------------------------------------------------------

namespace JsonArray

/-- What a writer of diagnostics as an array can be asked for, in any order. -/
inductive Step where
  | start
  | add (d : Diagnostic)
  | finish
  | flush
deriving DecidableEq, Repr

namespace Step

def perform : Step → Action
  | start => JsonArray.start
  | add d => JsonArray.add d
  | finish => JsonArray.finish
  | flush => JsonArray.flush

/-- What the step writes on an array that is empty or not. -/
def text (isEmpty : Bool) : Step → String
  | start => "[\n"
  | add d => separator isEmpty ++ elementText d
  | finish => (if isEmpty then "]" else "\n]") ++ "\n"
  | flush => ""

/-- Whether the array is empty behind the step. -/
def leaves (isEmpty : Bool) : Step → Bool
  | add _ => false
  | _ => isEmpty

theorem puts_perform (x : Step) (b : Bool) : Puts x.perform b (x.text b) (x.leaves b) := by
  cases x with
  | start => exact puts_start b
  | add d => exact puts_add d b
  | finish => exact puts_finish b
  | flush => exact puts_flush b

theorem isEmpty_onDevice (w : Write Unit) (a : JsonArray) :
    (left (onDevice w a)).isEmpty = a.isEmpty := by
  unfold onDevice
  cases w a.device <;> rfl

/-- However its writes end, an array that was begun stays begun. -/
theorem isEmpty_left_bind {m n : Action} {a : JsonArray} (hm : (left (m a)).isEmpty = false)
    (hn : ∀ a : JsonArray, a.isEmpty = false → (left (n a)).isEmpty = false) :
    (left ((do m; n) a)).isEmpty = false := by
  simp only [bind, EStateM.bind]
  cases h : m a with
  | ok _ a' =>
    rw [h] at hm
    exact hn a' hm
  | error e a' =>
    rw [h] at hm
    exact hm

/-- A step that fails leaves the array empty or not as it would if it did not fail. -/
theorem isEmpty_perform (x : Step) (a : JsonArray) :
    (left (x.perform a)).isEmpty = x.leaves a.isEmpty := by
  cases x with
  | start | finish => exact isEmpty_onDevice _ a
  | flush => exact isEmpty_onDevice Write.flush a
  | add d =>
    obtain ⟨device, isEmpty⟩ := a
    cases isEmpty with
    | true => exact isEmpty_onDevice (writeElement d) ⟨device, false⟩
    | false =>
      refine isEmpty_left_bind (isEmpty_onDevice (putLine ",") _) fun a _ => ?_
      exact isEmpty_onDevice (writeElement d) { a with isEmpty := false }

theorem left_perform (x : Step) (d : Device) (b : Bool) :
    left (x.perform ⟨d, b⟩) = ⟨after (x.text b) d, x.leaves b⟩ := by
  have hdevice : (left (x.perform ⟨d, b⟩)).device = after (x.text b) d := by
    rw [after, ← (x.puts_perform b).device d]
    cases x.perform ⟨d, b⟩ <;> rfl
  rw [← hdevice, ← x.isEmpty_perform ⟨d, b⟩]

/-- The texts of some steps. -/
def texts : Bool → List Step → List String
  | _, [] => []
  | isEmpty, x :: xs => x.text isEmpty :: texts (x.leaves isEmpty) xs

/-- An array leaves its device as the writes of its texts do. -/
theorem endings_perform (xs : List Step) (d : Device) (b : Bool) :
    (endings (xs.map perform) ⟨d, b⟩).map onDeviceAlone = endings ((texts b xs).map put) d := by
  induction xs generalizing d b with
  | nil => rfl
  | cons x xs ih =>
    rw [List.map_cons, endings, List.map_cons, (x.puts_perform b).device, left_perform, ih]
    rfl

/-- Whether an array is empty does not depend on its device. -/
theorem isEmpty_endings (xs : List Step) (d d' : Device) (b : Bool) :
    (endings (xs.map perform) ⟨d, b⟩).map (fun e => (left e).isEmpty) =
      (endings (xs.map perform) ⟨d', b⟩).map fun e => (left e).isEmpty := by
  induction xs generalizing d d' b with
  | nil => rfl
  | cons x xs ih =>
    rw [List.map_cons, endings, endings, List.map_cons, List.map_cons, left_perform, left_perform,
      ih (after (x.text b) d) (after (x.text b) d')]

end Step

end JsonArray

/-- Diagnostics are written in steps, for a terminal or as an array, in any order, and what follows
a step that failed is done all the same. Where no write fails, each step writes a text. On a device
with room for `n` bytes, the first `n` bytes of those texts are kept, and a step fails exactly when
it has something to write and the texts up to its own are longer than that. Behind each step, an
array is begun or not as it is where no write fails. -/
theorem steps_limited :
    (∀ (colors : Bool) (xs : List Terminal.Step), ∃ us : List String,
      Writes us (endings (xs.map (·.perform colors)) {}) ∧
      ∀ n reason, FillsUp n us (endings (xs.map (·.perform colors)) (.limited n reason))) ∧
    ∀ xs : List JsonArray.Step, ∃ us : List String,
      Writes us ((endings (xs.map (·.perform)) { device := {} }).map JsonArray.onDeviceAlone) ∧
      ∀ n reason,
        FillsUp n us ((endings (xs.map (·.perform)) { device := .limited n reason }).map
          JsonArray.onDeviceAlone) ∧
        (endings (xs.map (·.perform)) { device := .limited n reason }).map
            (fun e => (left e).isEmpty) =
          (endings (xs.map (·.perform)) { device := {} }).map fun e => (left e).isEmpty := by
  constructor
  · intro colors xs
    have hputs : xs.map (·.perform colors) = (xs.map (·.text colors)).map put := by
      rw [List.map_map]
      exact List.map_congr_left fun x _ => x.perform_eq_put colors
    rw [hputs]
    exact ⟨_, writes_put _, fun n reason => fillsUp_put n reason _⟩
  · intro xs
    refine ⟨JsonArray.Step.texts true xs, ?_, fun n reason => ⟨?_, ?_⟩⟩
    · rw [JsonArray.Step.endings_perform]
      exact writes_put _
    · rw [JsonArray.Step.endings_perform]
      exact fillsUp_put n reason _
    · exact JsonArray.Step.isEmpty_endings xs _ _ true

/-- The end of an empty array does not fit and fails, and so does a second one. To flush in between
writes nothing. -/
example : (endings ([.start, .finish, .flush, .finish].map JsonArray.Step.perform)
    { device := .limited 3 "full" }).map failed = [false, true, false, true] := by
  decide +kernel

end FrontEnd

-- SUMMARY: Output devices with limited room, and writing to them.

/-!
# Devices

A device keeps the bytes that are written to it, up to the room it has. A write
that does not fit is cut: the device keeps what there is room for and the write
fails, with the reason that the device gives. Writing nothing never fails.

`Write` is a sequence of writes that stops at the first failure. What was
written before stays on the device.
-/

namespace FrontEnd

structure Device where
  /-- How many more bytes it takes; any number when absent. -/
  room : Option Nat := none
  contents : ByteArray := .empty
  /-- What it says when it is full. -/
  fullReason : String := "device full"

/-- The failure of a write. -/
structure WriteFailure where
  reason : String
deriving DecidableEq, Repr

abbrev Write := EStateM WriteFailure Device

namespace Write

/-- Write some bytes, or as many of them as there is room for. -/
def putBytes (bytes : ByteArray) : Write Unit := fun d =>
  match d.room with
  | none => .ok () { d with contents := d.contents ++ bytes }
  | some room =>
    if bytes.size ≤ room then
      .ok () { d with room := some (room - bytes.size), contents := d.contents ++ bytes }
    else
      .error ⟨d.fullReason⟩
        { d with room := some 0, contents := d.contents ++ bytes.extract 0 room }

/-- Bytes may be written in pieces: the same are kept, and it fails in the same cases. -/
theorem putBytes_append (a b : ByteArray) :
    putBytes (a ++ b) = (do putBytes a; putBytes b) := by
  funext d
  cases hroom : d.room with
  | none => simp [putBytes, hroom, bind, EStateM.bind, ByteArray.append_assoc]
  | some room =>
    simp only [bind, EStateM.bind, putBytes, hroom, ByteArray.size_append]
    by_cases ha : a.size ≤ room
    · by_cases hb : b.size ≤ room - a.size
      · have both : a.size + b.size ≤ room := by omega
        simp [ha, hb, both, ByteArray.append_assoc, Nat.sub_sub]
      · have both : ¬ a.size + b.size ≤ room := by omega
        have kept : a.extract 0 room = a :=
          ByteArray.ext (by
            rw [ByteArray.data_extract,
              Array.extract_eq_self_of_le (show a.data.size ≤ room from ha)])
        simp [ha, hb, both, ByteArray.append_assoc, ByteArray.extract_append, kept]
    · have both : ¬ a.size + b.size ≤ room := by omega
      have cut : room - a.size = 0 := by omega
      simp [ha, both, ByteArray.extract_append, cut]

/-- Write a text, in UTF-8. -/
def put (text : String) : Write Unit :=
  putBytes text.toUTF8

theorem put_append (s t : String) : put (s ++ t) = (do put s; put t) := by
  simp [put, putBytes_append]

/-- Writing nothing never fails. -/
theorem put_empty : put "" = pure () := by
  funext d
  cases hroom : d.room <;> cases d <;> simp_all [put, putBytes, pure, EStateM.pure]

/-- Write a text and end the line. -/
def putLine (text : String) : Write Unit :=
  put (text ++ "\n")

/-- Hand on what the device holds back, which is nothing. -/
def flush : Write Unit :=
  pure ()

end Write

/-- The two devices of a run: one for its output, and one for what goes wrong around it. -/
structure Console where
  out : Device := {}
  err : Device := {}

abbrev Session := EStateM WriteFailure Console

namespace Session

/-- Write to the output. -/
def out (w : Write α) : Session α := fun c =>
  match w c.out with
  | .ok a out => .ok a { c with out }
  | .error e out => .error e { c with out }

/-- Write to the error device. -/
def err (w : Write α) : Session α := fun c =>
  match w c.err with
  | .ok a err => .ok a { c with err }
  | .error e err => .error e { c with err }

end Session

end FrontEnd

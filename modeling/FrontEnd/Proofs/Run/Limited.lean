-- SUMMARY: On devices with limited room a run is cut short: it leaves the front of what it would have written, and a run that was cut fails.
import FrontEnd.Proofs.Run.Outcome

/-!
# Runs on devices that fill up

What a run writes is one text (`Run.Outcome`), so a device with room for some
bytes keeps that many of them from the front, whatever pieces the text was
written in. A run whose text does not fit fails, whatever its outcome is. It
tells the reason on the error device, which may not have the room for it, and
has none left when it is the device that was full.
-/

namespace FrontEnd

-- ---------------------------------------------------------------------------
-- Writing to a device with limited room
-- ---------------------------------------------------------------------------

/-- An empty device that takes `room` bytes and then fails for this reason. -/
def Device.limited (room : Nat) (reason : String) : Device where
  room := some room
  fullReason := reason

namespace Write

variable {α : Type} {text : String} {room : Nat} {d : Device}

theorem extract_of_size_le {bytes : ByteArray} (h : bytes.size ≤ room) :
    bytes.extract 0 room = bytes := by
  rw [← Nat.max_eq_left h, ByteArray.extract_zero_max_size]

theorem extract_min_size (bytes : ByteArray) (n : Nat) :
    bytes.extract 0 (min n bytes.size) = bytes.extract 0 n := by
  obtain h | h := Nat.le_total n bytes.size
  · rw [Nat.min_eq_left h]
  · rw [Nat.min_eq_right h, extract_of_size_le h, ByteArray.extract_zero_size]

/-- The device that a text leaves, with as much of its front as there was room for. -/
def filled (text : String) (room : Nat) (d : Device) : Device :=
  { d with
    room := some (room - text.toUTF8.size)
    contents := d.contents ++ text.toUTF8.extract 0 room }

theorem put_return_of_le {a : α} (hroom : d.room = some room) (h : text.toUTF8.size ≤ room) :
    (do put text; return a : Write α) d = .ok a (filled text room d) := by
  simp only [bind, EStateM.bind, put, putBytes, hroom, if_pos h, filled, extract_of_size_le h]
  rfl

theorem put_return_of_lt {a : α} (hroom : d.room = some room) (h : room < text.toUTF8.size) :
    (do put text; return a : Write α) d = .error ⟨d.fullReason⟩ (filled text room d) := by
  simp only [bind, EStateM.bind, put, putBytes, hroom, if_neg (Nat.not_le.2 h), filled,
    Nat.sub_eq_zero_of_le (Nat.le_of_lt h)]

theorem contents_filled_limited (text : String) (room : Nat) (reason : String) :
    (filled text room (.limited room reason)).contents = text.toUTF8.extract 0 room :=
  ByteArray.empty_append

/-- A full device stays as it is. -/
theorem filled_zero (text : String) (hroom : d.room = some 0) : filled text 0 d = d := by
  obtain ⟨_, contents, reason⟩ := d
  obtain rfl : _ = some 0 := hroom
  simp [filled]

end Write

-- ---------------------------------------------------------------------------
-- Runs
-- ---------------------------------------------------------------------------

namespace Run

/-- What is told about a write that failed. -/
def failureText (reason : String) : String :=
  "error: cannot write output: " ++ reason ++ "\n"

/-- The reason is told as far as the error device has room for it. -/
theorem tellFailure_eq (e : WriteFailure) {out err : Device} {room : Nat}
    (hroom : err.room = some room) :
    tellFailure e { out, err } =
      { out, err := Write.filled (failureText e.reason) room err } := by
  have hput : Write.putLine ("error: cannot write output: " ++ e.reason) =
      (do Write.put (failureText e.reason); return ()) := bind_pure_unit.symm
  unfold tellFailure Session.err
  rw [hput]
  by_cases h : (failureText e.reason).toUTF8.size ≤ room
  · rw [Write.put_return_of_le hroom h]
  · rw [Write.put_return_of_lt hroom (Nat.lt_of_not_le h)]

namespace Outcome

variable {x : Outcome} {c : Console} {n m : Nat}

/-- The output has room for what is written to it. -/
theorem finished_out_of_le (hx : x.channel = .out) (hout : c.out.room = some n)
    (h : x.text.toUTF8.size ≤ n) :
    x.finished c = (x.exit, { c with out := Write.filled x.text n c.out }) := by
  simp only [finished, session, hx, Channel.write, Session.out, Write.put_return_of_le hout h]

/-- The output is full before all is written to it. -/
theorem finished_out_of_lt (hx : x.channel = .out) (hout : c.out.room = some n)
    (herr : c.err.room = some m) (h : n < x.text.toUTF8.size) :
    x.finished c = (.failure, {
      out := Write.filled x.text n c.out
      err := Write.filled (failureText c.out.fullReason) m c.err }) := by
  simp only [finished, session, hx, Channel.write, Session.out, Write.put_return_of_lt hout h]
  rw [tellFailure_eq _ herr]

/-- The error device has room for what is written to it. -/
theorem finished_err_of_le (hx : x.channel = .err) (herr : c.err.room = some m)
    (h : x.text.toUTF8.size ≤ m) :
    x.finished c = (x.exit, { c with err := Write.filled x.text m c.err }) := by
  simp only [finished, session, hx, Channel.write, Session.err, Write.put_return_of_le herr h]

/-- The error device is full before all is written to it, and then nothing can be told. -/
theorem finished_err_of_lt (hx : x.channel = .err) (herr : c.err.room = some m)
    (h : m < x.text.toUTF8.size) :
    x.finished c = (.failure, { c with err := Write.filled x.text m c.err }) := by
  have hfull : (Write.filled x.text m c.err).room = some 0 :=
    congrArg some (Nat.sub_eq_zero_of_le (Nat.le_of_lt h))
  simp only [finished, session, hx, Channel.write, Session.err, Write.put_return_of_lt herr h]
  rw [tellFailure_eq _ hfull, Write.filled_zero _ hfull]

end Outcome

end Run

open Run

/-- Take what a run leaves on its two devices when no write fails: one of them stays empty. On
devices with limited room the run leaves the front of it. When there is room for all of it the run
ends in the same way. When there is not it fails; a full output is told on the error device as far
as that has room, and on a full error device nothing more is told. -/
theorem run_limited (args : List String) (read : ReadSource) (terminal : Bool) :
    ∃ exit O E,
      run args read terminal {} = (exit, { out := { contents := O }, err := { contents := E } }) ∧
      (O = .empty ∨ E = .empty) ∧
      ∀ n m r s, ∃ exit' out err,
        run args read terminal { out := .limited n r, err := .limited m s } =
          (exit', { out, err }) ∧
        out.contents = O.extract 0 (min n O.size) ∧
        (O.size ≤ n → E.size ≤ m → exit' = exit ∧ err.contents = E) ∧
        (n < O.size → exit'.status = 1 ∧
          err.contents = ("error: cannot write output: " ++ r ++ "\n").toUTF8.extract 0 m) ∧
        (m < E.size → exit'.status = 1 ∧ err.contents = E.extract 0 m) := by
  simp only [run_eq_finished, Write.extract_min_size]
  generalize outcome (Command.ofArguments args) read terminal = x
  refine ⟨_, _, _, x.finished_unlimited, ?_, fun n m r s => ?_⟩
  · by_cases hx : x.channel = .out
    · exact .inr (by rw [Outcome.textOn_other (by simp [hx])]; rfl)
    · exact .inl (by rw [Outcome.textOn_other hx]; rfl)
  cases hx : x.channel with
  | out =>
    rw [Outcome.textOn_self hx, Outcome.textOn_other (by simp [hx])]
    by_cases h : x.text.toUTF8.size ≤ n
    · exact ⟨_, _, _, Outcome.finished_out_of_le hx rfl h, Write.contents_filled_limited _ _ _,
        fun _ _ => ⟨rfl, rfl⟩, fun hlt => absurd h (Nat.not_le.2 hlt),
        fun hlt => absurd hlt (Nat.not_lt_zero m)⟩
    · exact ⟨_, _, _, Outcome.finished_out_of_lt hx rfl rfl (Nat.lt_of_not_le h),
        Write.contents_filled_limited _ _ _, fun hle => absurd hle h,
        fun _ => ⟨rfl, Write.contents_filled_limited _ _ _⟩,
        fun hlt => absurd hlt (Nat.not_lt_zero m)⟩
  | err =>
    rw [Outcome.textOn_self hx, Outcome.textOn_other (by simp [hx])]
    have hnone : (Device.limited n r).contents = "".toUTF8.extract 0 n :=
      (ByteArray.extract_eq_empty_iff.2 (Nat.min_le_right _ _)).symm
    by_cases h : x.text.toUTF8.size ≤ m
    · refine ⟨_, _, _, Outcome.finished_err_of_le hx rfl h, hnone, fun _ _ => ⟨rfl, ?_⟩,
        fun hlt => absurd hlt (Nat.not_lt_zero n), fun hlt => absurd h (Nat.not_le.2 hlt)⟩
      rw [Write.contents_filled_limited, Write.extract_of_size_le h]
    · exact ⟨_, _, _, Outcome.finished_err_of_lt hx rfl (Nat.lt_of_not_le h), hnone,
        fun _ hle => absurd hle h, fun hlt => absurd hlt (Nat.not_lt_zero n),
        fun _ => ⟨rfl, Write.contents_filled_limited _ _ _⟩⟩

end FrontEnd

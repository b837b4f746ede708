/-! What a program has written, and the device that takes it. -/

namespace Ducat

/-- A device may refuse a byte or fail to flush, depending on what it has taken before. -/
structure Device where
  /-- Why the next byte is refused, if it is. -/
  refusal : (written : Array UInt8) → (flushes : Nat) → Option String
  /-- Why the next flush fails, if it does. -/
  flushFailure : (written : Array UInt8) → (flushes : Nat) → Option String

namespace Device

def unlimited : Device := ⟨fun _ _ => none, fun _ _ => none⟩

def limited (limit : Nat) (reason : String) : Device :=
  { unlimited with
    refusal := fun written _ => if written.size < limit then none else some reason }

def failingFlush (device : Device) (reason : String) : Device :=
  { device with flushFailure := fun _ _ => some reason }

end Device

structure Output where
  device : Device
  written : Array UInt8
  /-- How often the device was flushed, also in vain. -/
  flushes : Nat

namespace Output

def start (device : Device) : Output := ⟨device, #[], 0⟩

def write (output : Output) : List UInt8 → Option String × Output
  | [] => (none, output)
  | byte :: rest =>
      match output.device.refusal output.written output.flushes with
      | some reason => (some reason, output)
      | none => write { output with written := output.written.push byte } rest

theorem write_written (output : Output) (bytes : List UInt8) :
    ∃ taken rest, bytes = taken ++ rest ∧
      (output.write bytes).2.written.toList = output.written.toList ++ taken ∧
      ((output.write bytes).1 = none → rest = []) := by
  induction bytes generalizing output with
  | nil => exact ⟨[], [], rfl, by simp [write], fun _ => rfl⟩
  | cons byte bytes induction =>
      unfold write
      cases refused : output.device.refusal output.written output.flushes with
      | some reason => exact ⟨[], byte :: bytes, rfl, by simp, by simp⟩
      | none =>
          rcases induction { output with written := output.written.push byte } with
            ⟨taken, rest, split, written, complete⟩
          exact ⟨byte :: taken, rest, by simp [split], by simpa using written, complete⟩

def flush (output : Output) : Option String × Output :=
  (output.device.flushFailure output.written output.flushes,
    { output with flushes := output.flushes + 1 })

def lineBytes (text : String) : List UInt8 := (text ++ "\n").toUTF8.toList

end Output

end Ducat

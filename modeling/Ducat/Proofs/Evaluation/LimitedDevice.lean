import Ducat.Proofs.Evaluation.Interruption
import Ducat.Proofs.Evaluation.Visibility

/-! Main statement: a device that takes only so many bytes cuts a run off at the first byte that it
refuses, and changes nothing of a run that writes no more than that. -/

namespace Ducat

theorem Device.unlimited_acceptsAll : unlimited.AcceptsAll := fun _ _ => ⟨rfl, rfl⟩

variable {limit : Nat} {reason : String} {output other : Output}

namespace Output

/-- The second output holds as much of the first one as a limited device takes. -/
structure Cut (limit : Nat) (reason : String) (output other : Output) : Prop where
  unlimited : output.device = .unlimited
  limited : other.device = .limited limit reason
  written : other.written.toList = output.written.toList.take limit

theorem write_of_limited (limited : other.device = .limited limit reason)
    (fits : other.written.size ≤ limit) (bytes : List UInt8) :
    (other.write bytes).1 =
        (if other.written.size + bytes.length ≤ limit then none else some reason) ∧
      (other.write bytes).2.written.toList =
        other.written.toList ++ bytes.take (limit - other.written.size) := by
  induction bytes generalizing other with
  | nil => simp [write, fits]
  | cons byte rest induction =>
      have refusal : other.device.refusal other.written other.flushes =
          if other.written.size < limit then none else some reason := by
        rw [limited]
        rfl
      rw [write, refusal]
      by_cases room : other.written.size < limit
      · rcases @induction { other with written := other.written.push byte } limited
          (by simpa using room) with ⟨failure, written⟩
        have sum : other.written.size + (rest.length + 1) =
            other.written.size + 1 + rest.length := by omega
        have left : limit - other.written.size = limit - (other.written.size + 1) + 1 := by omega
        rw [if_pos room, List.length_cons, sum, left, List.take_succ_cons]
        dsimp only at failure written ⊢
        rw [failure, written, Array.size_push, Array.toList_push, List.append_assoc]
        exact ⟨rfl, rfl⟩
      · have full : limit - other.written.size = 0 := by omega
        rw [if_neg room, full, List.take_zero, List.append_nil, List.length_cons]
        exact ⟨(if_neg (by omega)).symm, rfl⟩

namespace Cut

theorem written_of_fits (cut : output.Cut limit reason other) (fits : output.written.size ≤ limit) :
    other.written = output.written := by
  apply Array.toList_inj.mp
  rw [cut.written]
  exact List.take_of_length_le fits

theorem acceptsAll (cut : output.Cut limit reason other) : output.device.AcceptsAll := by
  rw [cut.unlimited]
  exact Device.unlimited_acceptsAll

theorem grows (cut : output.Cut limit reason other) (bytes : List UInt8) :
    output.Grows bytes (output.write bytes).2 :=
  write_grows cut.acceptsAll bytes

theorem size_write (cut : output.Cut limit reason other) (bytes : List UInt8) :
    (output.write bytes).2.written.size = output.written.size + bytes.length := by
  have lengths := congrArg List.length (cut.grows bytes).written
  rwa [List.length_append, Array.length_toList, Array.length_toList] at lengths

/-- The limited device refuses a byte if and only if the unlimited one has more than it takes. -/
theorem write (cut : output.Cut limit reason other) (fits : output.written.size ≤ limit)
    (bytes : List UInt8) :
    (output.write bytes).2.Cut limit reason (other.write bytes).2 ∧
      (other.write bytes).1 =
        if (output.write bytes).2.written.size ≤ limit then none else some reason := by
  have same := cut.written_of_fits fits
  have grows := cut.grows bytes
  rcases write_of_limited cut.limited (by rwa [same]) bytes with ⟨failure, written⟩
  refine ⟨⟨?_, ?_, ?_⟩, ?_⟩
  · rw [grows.device, cut.unlimited]
  · rw [write_device, cut.limited]
  · rw [written, same, grows.written, List.take_append, Array.length_toList,
      List.take_of_length_le fits]
  · rw [failure, same, cut.size_write bytes]

theorem write_of_full (cut : output.Cut limit reason other) (full : limit < output.written.size)
    (bytes : List UInt8) :
    (output.write bytes).2.Cut limit reason other ∧
      limit < (output.write bytes).2.written.size := by
  have grows := cut.grows bytes
  refine ⟨⟨?_, cut.limited, ?_⟩, ?_⟩
  · rw [grows.device, cut.unlimited]
  · rw [cut.written, grows.written, List.take_append_of_le_length (Nat.le_of_lt full)]
  · rw [cut.size_write bytes]
    omega

end Cut

end Output

def Interruption.ofLimit (limit : Nat) (reason : String) : Interruption :=
  .ofOutputs (fun output other => output.Cut limit reason other ∧ output.written.size ≤ limit)
    fun error output other => error = .outputFailed reason ∧
      output.Cut limit reason other ∧ limit < output.written.size

namespace Action

theorem onOutput_eq (effect : Output → Option String × Output) (machine : Machine) :
    onOutput effect machine =
      .finished
        (match (effect machine.output).1 with
          | none => .ok ()
          | some reason => .error (.outputFailed reason))
        { machine with output := (effect machine.output).2 } := by
  rw [onOutput]
  split
  next equation => rw [equation]
  next equation => rw [equation]

theorem writeLine_refinesUntil_limit (text : String) :
    (writeLine text).RefinesUntil (.ofLimit limit reason) (fun _ => True) (writeLine text) where
  running {machine other result after} linked finished := by
    rcases linked with ⟨calls, cut, fits⟩
    rcases cut.write fits (Output.lineBytes text) with ⟨stillCut, failure⟩
    have unfailed := Output.write_of_acceptsAll cut.acceptsAll (Output.lineBytes text)
    rw [writeLine, onOutput_eq, unfailed] at finished
    cases finished
    refine ⟨fun _ _ => trivial, _, _, onOutput_eq _ other, ?_⟩
    rw [failure]
    by_cases room : (machine.output.write (Output.lineBytes text)).2.written.size ≤ limit
    · rw [if_pos room]
      exact .alike ⟨calls, stillCut, room⟩
    · rw [if_neg room]
      exact .stopped ⟨rfl, stillCut, Nat.lt_of_not_le room⟩
  stopped {error machine written result after} stopped finished := by
    rcases stopped with ⟨same, cut, full⟩
    rw [writeLine, onOutput_eq] at finished
    cases finished
    exact ⟨fun _ _ => trivial, same, cut.write_of_full full (Output.lineBytes text)⟩

theorem flush_refinesUntil_limit :
    flush.RefinesUntil (.ofLimit limit reason) (fun _ => True) flush where
  running {machine other result after} linked finished := by
    rcases linked with ⟨calls, cut, fits⟩
    have unfailed : machine.output.flush.1 = none := by
      rw [Output.flush, cut.unlimited]
      rfl
    have otherUnfailed : other.output.flush.1 = none := by
      rw [Output.flush, cut.limited]
      rfl
    rw [flush, onOutput_eq, unfailed] at finished
    cases finished
    refine ⟨fun _ _ => trivial, _, _, onOutput_eq _ other, ?_⟩
    rw [otherUnfailed]
    exact .alike ⟨calls, ⟨cut.unlimited, cut.limited, cut.written⟩, fits⟩
  stopped {error machine written result after} stopped finished := by
    rcases stopped with ⟨same, cut, full⟩
    rw [flush, onOutput_eq] at finished
    cases finished
    exact ⟨fun _ _ => trivial, same, ⟨cut.unlimited, cut.limited, cut.written⟩, full⟩

end Action

theorem Setting.enter_refinesUntil_limit (limit : Nat) (reason : String) (program : Program)
    (rates : Rates) (steps : Nat) (entry : String) :
    ((Setting.ofProgram program rates steps).enter entry).RefinesUntil (.ofLimit limit reason)
      (fun result => ∀ value ∈ result, Discipline.free.good value)
      ((Setting.ofProgram program rates steps).enter entry) := by
  have allows : (Interruption.ofLimit limit reason).comparison.AllowsCalls
      (Interruption.ofLimit limit reason).comparison Discipline.free.good program rates rates :=
    Interruption.ofOutputs_allowsCalls program rates Action.writeLine_refinesUntil_limit
      Action.flush_refinesUntil_limit
  exact enter_compares allows (Discipline.free_allowsProgram program)
    (Discipline.free.sameCasts_self rates) (Nat.le_refl steps) entry

/-- A run with a limited device ends like the run with an unlimited one if it writes no more bytes
than the device takes. Otherwise it fails, with all the bytes written that the device takes. -/
theorem limited_run_is_cut (program : Program) (rates : Rates) (steps : Nat) (entry : String)
    {result : Except RuntimeError (Option Value)} {after : Machine}
    (finished : (Setting.ofProgram program rates steps).enter entry (.start .unlimited) =
      .finished result after) (limit : Nat) (reason : String) :
    (after.output.written.size ≤ limit →
      ∃ other, (Setting.ofProgram program rates steps).enter entry
            (.start (.limited limit reason)) = .finished result other ∧
          other.output.written = after.output.written) ∧
    (limit < after.output.written.size →
      ∃ other, (Setting.ofProgram program rates steps).enter entry
            (.start (.limited limit reason)) = .finished (.error (.outputFailed reason)) other ∧
          other.output.written.toList = after.output.written.toList.take limit) := by
  have entered := Setting.enter_refinesUntil_limit limit reason program rates steps entry
  have start : (Interruption.ofLimit limit reason).linked (.start .unlimited)
      (.start (.limited limit reason)) := ⟨rfl, ⟨rfl, rfl, List.take_nil.symm⟩, Nat.zero_le limit⟩
  rcases entered.running start finished with ⟨_, ending, other, otherFinished, ends⟩
  cases ends with
  | alike linked =>
      rcases linked with ⟨_, cut, fits⟩
      refine ⟨fun _ => ⟨other, otherFinished, cut.written_of_fits fits⟩, fun full => ?_⟩
      omega
  | stopped stopped =>
      rcases stopped with ⟨rfl, cut, full⟩
      refine ⟨fun fits => ?_, fun _ => ⟨other, otherFinished, cut.written⟩⟩
      omega

def reportingProgram : Program :=
  let report (argument : Expression) : Expression := .call "report" [argument]
  let number (value : Int64) : Expression := .literal (.int value)
  reportProgram.insert
    { returnType := .int
      name := "main"
      parameters := []
      body :=
        [.branch (.comparison .less (report (number 1)) (report (number 2)))
          (.leave (some (report (report (number 3)))))] }

def reportedMachine : Machine :=
  ⟨[], ⟨.unlimited, #[0x31, 0x0A, 0x32, 0x0A, 0x33, 0x0A, 0x34, 0x0A], 4⟩⟩

theorem limited_run_is_cut_of_reporting :
    (Setting.ofProgram reportingProgram .empty 4).enter "main" (.start .unlimited) =
        .finished (.ok (some (.int 5))) reportedMachine ∧
      (∃ other, (Setting.ofProgram reportingProgram .empty 4).enter "main"
            (.start (.limited 8 "full")) = .finished (.ok (some (.int 5))) other ∧
          other.output.written = reportedMachine.output.written) ∧
      ∃ other, (Setting.ofProgram reportingProgram .empty 4).enter "main"
            (.start (.limited 5 "full")) = .finished (.error (.outputFailed "full")) other ∧
          other.output.written.toList = [0x31, 0x0A, 0x32, 0x0A, 0x33] := by
  have finished : (Setting.ofProgram reportingProgram .empty 4).enter "main" (.start .unlimited) =
      .finished (.ok (some (.int 5))) reportedMachine := by
    cbv
  have large := limited_run_is_cut reportingProgram .empty 4 "main" finished 8 "full"
  have small := limited_run_is_cut reportingProgram .empty 4 "main" finished 5 "full"
  exact ⟨finished, large.1 (by decide), small.2 (by decide)⟩

end Ducat

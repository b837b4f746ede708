import Mathlib
import Ducat.Proofs.Evaluation.Keeping

/-! Calls leave no trace but their output: whatever an evaluation finishes with, the active calls
are afterwards what they were before it, with all their scopes and variables. -/

namespace Ducat

structure Output.Extends (before after : Output) : Prop where
  device : after.device = before.device
  written : before.written.toList <+: after.written.toList

namespace Output

theorem Extends.refl (output : Output) : output.Extends output :=
  ⟨rfl, List.prefix_refl _⟩

theorem Extends.trans {first second third : Output} (earlier : first.Extends second)
    (later : second.Extends third) : first.Extends third :=
  ⟨later.device.trans earlier.device, earlier.written.trans later.written⟩

theorem write_device (output : Output) (bytes : List UInt8) :
    (output.write bytes).2.device = output.device := by
  induction bytes generalizing output with
  | nil => rfl
  | cons byte rest induction =>
      unfold write
      split
      · rfl
      · exact induction _

theorem write_extends (output : Output) (bytes : List UInt8) :
    output.Extends (output.write bytes).2 := by
  rcases output.write_written bytes with ⟨taken, _, _, written, _⟩
  exact ⟨output.write_device bytes, taken, written.symm⟩

theorem flush_extends (output : Output) : output.Extends output.flush.2 :=
  ⟨rfl, List.prefix_refl _⟩

end Output

structure Machine.SameCalls (before after : Machine) : Prop where
  calls : after.calls = before.calls
  output : before.output.Extends after.output

structure Machine.SameOuterCalls (before after : Machine) : Prop where
  calls : after.calls.tail = before.calls.tail
  output : before.output.Extends after.output

namespace Machine

theorem SameCalls.outer {before after : Machine} (same : before.SameCalls after) :
    before.SameOuterCalls after :=
  ⟨congrArg List.tail same.calls, same.output⟩

instance : IsPreorder Machine SameCalls where
  refl _ := ⟨rfl, .refl _⟩
  trans _ _ _ earlier later :=
    ⟨later.calls.trans earlier.calls, earlier.output.trans later.output⟩

instance : IsPreorder Machine SameOuterCalls where
  refl _ := ⟨rfl, .refl _⟩
  trans _ _ _ earlier later :=
    ⟨later.calls.trans earlier.calls, earlier.output.trans later.output⟩

theorem sameOuterCalls_withCall (machine : Machine) (context : Context) :
    machine.SameOuterCalls (machine.withCall context) :=
  ⟨rfl, .refl _⟩

theorem sameCalls_leaveCall {machine after : Machine} {context : Context}
    (same : (machine.enterCall context).SameOuterCalls after) :
    machine.SameCalls after.leaveCall :=
  ⟨same.calls, same.output⟩

end Machine

namespace Action

open Machine

theorem onOutput_keeps_calls {effect : Output → Option String × Output}
    (grows : ∀ output : Output, output.Extends (effect output).2) :
    (onOutput effect).Keeps SameCalls := by
  intro before result after finished
  have grown := grows before.output
  unfold onOutput at finished
  split at finished
  all_goals
    rename_i equation
    rw [equation] at grown
    cases finished
    exact ⟨rfl, grown⟩

theorem writeLine_keeps_calls (text : String) : (writeLine text).Keeps SameCalls :=
  onOutput_keeps_calls fun output => output.write_extends _

theorem flush_keeps_calls : flush.Keeps SameCalls :=
  onOutput_keeps_calls Output.flush_extends

end Action

namespace Coupling

open Machine

/-- The body of a function runs in a call of its own, which is the only one that it changes. -/
theorem sameCalls_allowsCalls (program : Program) (rates : Rates) :
    (ofMoves SameCalls).AllowsCalls (ofMoves SameOuterCalls) Discipline.free.good program
      rates where
  carried := by
    intro callee arguments steps more good refines machine other linked result after finished
    rcases refines machine other linked result after finished with
      ⟨otherAfter, otherFinished, stillLinked, moved, isGood⟩
    exact ⟨otherAfter, otherFinished, stillLinked, moved.outer, isGood⟩
  statements := ofMoves_allowsStatements fun machine context _ =>
    sameOuterCalls_withCall machine context
  depth _ _ same := congrArg (List.length ∘ calls) same
  enter _ _ scope _ same := congrArg (enterCall · (.ofScope scope)) same
  leave _ _ same := congrArg leaveCall same
  moved _ _ _ same := sameCalls_leaveCall same
  writeLine text := (Action.writeLine_keeps_calls text).refines fun _ => trivial
  flush := Action.flush_keeps_calls.refines fun _ => trivial

end Coupling

theorem Setting.ofProgram_keeps_calls (program : Program) (rates : Rates) (steps : Nat) :
    (Setting.ofProgram program rates steps).Keeps Machine.SameCalls := by
  intro callee arguments
  have applied := ofProgram_apply_refines (Coupling.sameCalls_allowsCalls program rates)
    (Discipline.free_allowsProgram program) (Nat.le_refl steps) callee arguments
    (Discipline.free_allowsCallee callee) fun _ _ => trivial
  exact applied.keeps

theorem Setting.enter_keeps_calls (program : Program) (rates : Rates) (steps : Nat)
    (entry : String) :
    ((Setting.ofProgram program rates steps).enter entry).Keeps Machine.SameCalls := by
  have entered := enter_refines (Coupling.sameCalls_allowsCalls program rates)
    (Discipline.free_allowsProgram program) (Nat.le_refl steps) entry
  exact entered.keeps

/-- Evaluations, calls and whole runs leave the calls as they were, also when they fail. -/
theorem calls_unchanged_of_finished (program : Program) (rates : Rates) (steps : Nat) :
    (∀ (expression : Expression) before result after,
      expression.evaluate (.ofProgram program rates steps) before = .finished result after →
        before.SameCalls after) ∧
    (∀ (function : String) (arguments : List Expression) before result after,
      (Setting.ofProgram program rates steps).call function arguments.length
          (Expression.evaluateAll (.ofProgram program rates steps) arguments) before =
        .finished result after →
        before.SameCalls after) ∧
    ∀ (entry : String) before result after,
      (Setting.ofProgram program rates steps).enter entry before = .finished result after →
        before.SameCalls after := by
  have kept := Setting.ofProgram_keeps_calls program rates steps
  refine ⟨fun expression => ?_, fun function arguments => ?_, fun entry => ?_⟩
  · exact Expression.evaluate_keeps kept expression
  · have argumentsKept := Expression.evaluateAll_keeps kept arguments
    exact Setting.call_keeps kept function arguments.length argumentsKept
  · exact Setting.enter_keeps_calls program rates steps entry

def wastefulProgram : Program :=
  let waste : Definition :=
    { returnType := .void
      name := "waste"
      parameters := [⟨none, "n"⟩]
      body :=
        [.block
          [.assign "n" (.literal (.int 1)),
            .call "print" [.reference "n"],
            .assign "n" (.arithmetic .divide (.reference "n") (.literal (.int 0)))]] }
  let main : Definition :=
    { returnType := .int
      name := "main"
      parameters := []
      body := [.call "waste" [.literal (.int 7)]] }
  (Program.empty.insert waste).insert main

def callingMachine : Machine :=
  ⟨[⟨[(∅ : Scope).insert "n" (.int 7)]⟩], ⟨.limited 2 "full", #[0x0A], 0⟩⟩

def filledMachine : Machine :=
  { callingMachine with output := ⟨.limited 2 "full", #[0x0A, 0x31], 0⟩ }

def wastedMachine : Machine := ⟨[], ⟨.unlimited, #[0x31, 0x0A], 1⟩⟩

theorem calls_unchanged_of_refused_output :
    ((Expression.call "waste" [.reference "n"]).evaluate
          (.ofProgram wastefulProgram .empty 4) callingMachine =
        .finished (.error (.outputFailed "full")) filledMachine ∧
      callingMachine.SameCalls filledMachine) ∧
    ((Setting.ofProgram wastefulProgram .empty 4).call "print" 1
          (Expression.evaluateAll (.ofProgram wastefulProgram .empty 4) [.literal (.int 1)])
          callingMachine =
        .finished (.error (.outputFailed "full")) filledMachine ∧
      callingMachine.SameCalls filledMachine) ∧
    (Setting.ofProgram wastefulProgram .empty 4).enter "main" (.start .unlimited) =
        .finished (.error .divisionByZero) wastedMachine ∧
      (Machine.start .unlimited).SameCalls wastedMachine := by
  rcases calls_unchanged_of_finished wastefulProgram .empty 4 with ⟨evaluated, called, entered⟩
  refine ⟨⟨?finished, evaluated _ _ _ _ ?finished⟩,
    ⟨?returned, called _ [.literal (.int 1)] _ _ _ ?returned⟩,
    ?stopped, entered _ _ _ _ ?stopped⟩
  case finished => cbv
  case returned => cbv
  case stopped => cbv

end Ducat

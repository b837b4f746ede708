import Ducat.Proofs.Evaluation.Alike

/-! Main statement: what an expression evaluates to and writes depends only on the number of active
calls and on the variables in sight of the innermost one. -/

namespace Ducat

def Device.AcceptsAll (device : Device) : Prop :=
  ∀ written flushes,
    device.refusal written flushes = none ∧ device.flushFailure written flushes = none

namespace Output

theorem write_of_acceptsAll {output : Output} (accepts : output.device.AcceptsAll)
    (bytes : List UInt8) : (output.write bytes).1 = none := by
  induction bytes generalizing output with
  | nil => rfl
  | cons byte rest induction =>
      rw [write, (accepts output.written output.flushes).1]
      exact induction accepts

structure Grows (before : Output) (bytes : List UInt8) (after : Output) : Prop where
  device : after.device = before.device
  written : after.written.toList = before.written.toList ++ bytes

theorem write_grows {output : Output} (accepts : output.device.AcceptsAll) (bytes : List UInt8) :
    output.Grows bytes (output.write bytes).2 := by
  rcases output.write_written bytes with ⟨taken, rest, split, written, complete⟩
  rw [complete (write_of_acceptsAll accepts bytes), List.append_nil] at split
  rw [← split] at written
  exact ⟨output.write_device bytes, written⟩

theorem Grows.refl (output : Output) : output.Grows [] output :=
  ⟨rfl, (List.append_nil _).symm⟩

theorem Grows.trans {first second third : Output} {bytes further : List UInt8}
    (earlier : first.Grows bytes second) (later : second.Grows further third) :
    first.Grows (bytes ++ further) third := by
  refine ⟨later.device.trans earlier.device, ?_⟩
  rw [later.written, earlier.written, List.append_assoc]

end Output

/-- The calls of two machines are related, and the same bytes were written by both since their
outputs were `before` and `otherBefore`. -/
structure Machine.Related (calls : List Context → List Context → Prop)
    (before otherBefore : Output) (machine other : Machine) : Prop where
  calls : calls machine.calls other.calls
  output : ∃ bytes, before.Grows bytes machine.output ∧ otherBefore.Grows bytes other.output

def Coupling.ofCalls (calls : List Context → List Context → Prop) (before otherBefore : Output) :
    Coupling :=
  .ofLink (Machine.Related calls before otherBefore)

namespace Calls

/-- The innermost calls have the same variables, but perhaps not in the same scopes. -/
structure SameView (calls others : List Context) : Prop where
  height : calls.length = others.length
  value? : ∀ name, (calls.head?.bind fun context => context.value? name) =
    others.head?.bind fun context => context.value? name

theorem SameView.symm {calls others : List Context} (same : SameView calls others) :
    SameView others calls :=
  ⟨same.height.symm, fun name => (same.value? name).symm⟩

theorem SameView.map_value? {calls others : List Context} (same : SameView calls others) :
    calls.head?.map Context.value? = others.head?.map Context.value? := by
  rcases same with ⟨height, value?⟩
  cases calls with
  | nil =>
      cases List.length_eq_zero_iff.mp height.symm
      rfl
  | cons context outer =>
      cases others with
      | nil => cases height
      | cons otherContext otherOuter => exact congrArg some (funext value?)

end Calls

section

variable {relation outer inner : List Context → List Context → Prop}
variable {before otherBefore : Output}

def Output.GrowAlike (before otherBefore output other : Output) : Prop :=
  ∃ bytes, before.Grows bytes output ∧ otherBefore.Grows bytes other

theorem Machine.related_iff_alike {machine other : Machine} :
    Related relation before otherBefore machine other ↔
      Alike relation (before.GrowAlike otherBefore) machine other :=
  ⟨fun related => ⟨related.calls, related.output⟩, fun alike => ⟨alike.calls, alike.output⟩⟩

theorem Coupling.ofCalls_eq (calls : List Context → List Context → Prop) :
    ofCalls calls before otherBefore = ofAlike calls (before.GrowAlike otherBefore) :=
  congrArg ofLink <| funext fun _ => funext fun _ => propext Machine.related_iff_alike

theorem Machine.Related.closeScope {machine other : Machine} (nests : Calls.Nests outer inner)
    (related : Related inner before otherBefore machine other) :
    Related inner before otherBefore machine.closeScope other.closeScope :=
  related_iff_alike.mpr ((related_iff_alike.mp related).closeScope nests)

namespace Action

theorem onOutput_refines {effect : Output → Option String × Output} (bytes : List UInt8)
    (accepted : ∀ output : Output, output.device.AcceptsAll →
      (effect output).1 = none ∧ output.Grows bytes (effect output).2)
    (accepts : before.device.AcceptsAll) (otherAccepts : otherBefore.device.AcceptsAll) :
    (onOutput effect).Refines (.ofCalls relation before otherBefore) (fun _ => True)
      (onOutput effect) := by
  rw [Coupling.ofCalls_eq]
  refine onOutput_refines_alike ?_
  rintro output other ⟨earlier, grows, otherGrows⟩
  rw [← grows.device] at accepts
  rw [← otherGrows.device] at otherAccepts
  rcases accepted output accepts with ⟨unfailed, written⟩
  rcases accepted other otherAccepts with ⟨otherUnfailed, otherWritten⟩
  rw [unfailed, otherUnfailed]
  exact ⟨rfl, earlier ++ bytes, grows.trans written, otherGrows.trans otherWritten⟩

theorem writeLine_refines (accepts : before.device.AcceptsAll)
    (otherAccepts : otherBefore.device.AcceptsAll) (text : String) :
    (writeLine text).Refines (.ofCalls relation before otherBefore) (fun _ => True)
      (writeLine text) := by
  refine onOutput_refines (Output.lineBytes text) ?_ accepts otherAccepts
  intro output accepts
  exact ⟨output.write_of_acceptsAll accepts _, output.write_grows accepts _⟩

theorem flush_refines (accepts : before.device.AcceptsAll)
    (otherAccepts : otherBefore.device.AcceptsAll) :
    flush.Refines (.ofCalls relation before otherBefore) (fun _ => True) flush := by
  refine onOutput_refines [] ?_ accepts otherAccepts
  exact fun output accepts => ⟨(accepts _ _).2, rfl, (List.append_nil _).symm⟩

theorem currentCall_refines
    (innermost : ∀ {calls others}, relation calls others → calls.head? = others.head?) :
    currentCall.Refines (.ofCalls relation before otherBefore) (fun _ => True) currentCall := by
  rw [Coupling.ofCalls_eq]
  exact currentCall_refines_alike innermost

theorem updateCall_refines (nests : Calls.Nests outer inner)
    (update : Context → Except RuntimeError Context) :
    (updateCall update).Refines (.ofCalls inner before otherBefore) (fun _ => True)
      (updateCall update) := by
  rw [Coupling.ofCalls_eq]
  exact updateCall_refines_alike nests update

/-- Actions that leave the calls alone cannot tell apart more than they do in any calls that are
related by `outer`. -/
theorem Refines.within {α : Type} {good : α → Prop} {first second : Action α}
    (refines : first.Refines (.ofCalls outer before otherBefore) good second)
    (within : ∀ {calls others}, inner calls others → outer calls others)
    (kept : first.Keeps Machine.SameCalls) (otherKept : second.Keeps Machine.SameCalls) :
    first.Refines (.ofCalls inner before otherBefore) good second := by
  rw [Coupling.ofCalls_eq] at refines ⊢
  exact (Coupling.ofAlike_restsOn within).refines refines kept otherKept

end Action

namespace Coupling

open Calls

theorem ofCalls_allowsStatements (nests : Nests outer inner) :
    (ofCalls inner before otherBefore).AllowsStatements Discipline.free.good := by
  rw [ofCalls_eq]
  exact ofAlike_allowsStatements nests

theorem ofCalls_carriesCalls (within : ∀ {calls others}, inner calls others → outer calls others)
    (program : Program) (rates : Rates) :
    (ofCalls outer before otherBefore).CarriesCalls (ofCalls inner before otherBefore) program
      rates := by
  rw [ofCalls_eq, ofCalls_eq]
  exact (ofAlike_restsOn within).carriesCalls program rates

theorem ofCalls_allowsEntering (nests : Nests outer inner) :
    (ofCalls outer before otherBefore).AllowsEntering (ofCalls inner before otherBefore)
      Discipline.free.good := by
  rw [ofCalls_eq, ofCalls_eq]
  exact ofAlike_allowsEntering nests

theorem sameNumber_allowsCalls (accepts : before.device.AcceptsAll)
    (otherAccepts : otherBefore.device.AcceptsAll) (program : Program) (rates : Rates) :
    (ofCalls SameNumber before otherBefore).AllowsCalls
      (ofCalls SameInnermost before otherBefore) Discipline.free.good program rates where
  toAllowsEntering := ofCalls_allowsEntering sameNumber_nests
  carried := ofCalls_carriesCalls sameNumber_nests.within program rates
  statements := ofCalls_allowsStatements sameNumber_nests
  depth _ _ related := related.calls
  writeLine := Action.writeLine_refines accepts otherAccepts
  flush := Action.flush_refines accepts otherAccepts

end Coupling

end

/-- Both outcomes run out of steps, or they have the same result and the same bytes were written
behind what there was before. -/
def Outcome.Agrees {α : Type} (before otherBefore : Output) : Outcome α → Outcome α → Prop
  | .exhausted, .exhausted => True
  | .finished result after, .finished otherResult otherAfter =>
      result = otherResult ∧
        ∃ bytes, before.Grows bytes after.output ∧ otherBefore.Grows bytes otherAfter.output
  | _, _ => False

theorem Action.agrees_of_refines {α : Type} {calls : List Context → List Context → Prop}
    {good : α → Prop} {action : Action α} {machine other : Machine}
    (refines : ∀ before otherBefore : Output, before.device.AcceptsAll →
      otherBefore.device.AcceptsAll →
        action.Refines (.ofCalls calls before otherBefore) good action)
    (accepts : machine.output.device.AcceptsAll) (otherAccepts : other.output.device.AcceptsAll)
    (same : calls machine.calls other.calls) (conversely : calls other.calls machine.calls) :
    Outcome.Agrees machine.output other.output (action machine) (action other) := by
  cases ran : action machine with
  | finished result after =>
      have forth := refines machine.output other.output accepts otherAccepts
      rcases forth machine other ⟨same, [], .refl _, .refl _⟩ result after ran with
        ⟨otherAfter, otherRan, related, _⟩
      rw [otherRan]
      exact ⟨rfl, related.output⟩
  | exhausted =>
      cases otherRan : action other with
      | exhausted => trivial
      | finished result after =>
          have back := refines other.output machine.output otherAccepts accepts
          rcases back other machine ⟨conversely, [], .refl _, .refl _⟩ result after
            otherRan with ⟨_, finished, _⟩
          rw [ran] at finished
          cases finished

section

variable (program : Program) (rates : Rates) (steps : Nat) {before otherBefore : Output}

theorem Expression.evaluate_refines_sameView (accepts : before.device.AcceptsAll)
    (otherAccepts : otherBefore.device.AcceptsAll) (expression : Expression) :
    (expression.evaluate (.ofProgram program rates steps)).Refines
      (.ofCalls Calls.SameView before otherBefore) Discipline.free.good
      (expression.evaluate (.ofProgram program rates steps)) := by
  have refines := Setting.ofProgram_refines
    (Coupling.sameNumber_allowsCalls accepts otherAccepts program rates)
    (Discipline.free_allowsProgram program) (Nat.le_refl steps)
    (Coupling.ofCalls_carriesCalls Calls.SameView.height program rates)
  exact expression.evaluate_refines refines
    (.of_view fun _ _ related => related.calls.map_value?) trivial

theorem Setting.apply_refines_sameNumber (accepts : before.device.AcceptsAll)
    (otherAccepts : otherBefore.device.AcceptsAll) (callee : Callee) (arguments : List Value) :
    ((Setting.ofProgram program rates steps).apply callee arguments).Refines
      (.ofCalls Calls.SameNumber before otherBefore)
      (fun result => ∀ value ∈ result, Discipline.free.good value)
      ((Setting.ofProgram program rates steps).apply callee arguments) :=
  Setting.ofProgram_apply_refines
    (Coupling.sameNumber_allowsCalls accepts otherAccepts program rates)
    (Discipline.free_allowsProgram program) (Nat.le_refl steps) callee arguments
    (Discipline.free_allowsCallee callee) fun _ _ => trivial

end

section

variable {machine other : Machine}

theorem Expression.evaluate_agrees (program : Program) (rates : Rates) (steps : Nat)
    (accepts : machine.output.device.AcceptsAll) (otherAccepts : other.output.device.AcceptsAll)
    (view : Calls.SameView machine.calls other.calls) (expression : Expression) :
    Outcome.Agrees machine.output other.output
      (expression.evaluate (.ofProgram program rates steps) machine)
      (expression.evaluate (.ofProgram program rates steps) other) :=
  Action.agrees_of_refines
    (fun _ _ accepts otherAccepts =>
      evaluate_refines_sameView program rates steps accepts otherAccepts expression)
    accepts otherAccepts view view.symm

theorem Setting.apply_agrees (program : Program) (rates : Rates) (steps : Nat)
    (accepts : machine.output.device.AcceptsAll) (otherAccepts : other.output.device.AcceptsAll)
    (height : Calls.SameNumber machine.calls other.calls) (callee : Callee)
    (arguments : List Value) :
    Outcome.Agrees machine.output other.output
      ((Setting.ofProgram program rates steps).apply callee arguments machine)
      ((Setting.ofProgram program rates steps).apply callee arguments other) :=
  Action.agrees_of_refines
    (fun _ _ accepts otherAccepts =>
      apply_refines_sameNumber program rates steps accepts otherAccepts callee arguments)
    accepts otherAccepts height height.symm

/-- An evaluation is the same in two machines with the same variables in sight, wherever they are
and whatever else there is. A function does not even see those of its caller. An evaluation that
is repeated gives its value again. -/
theorem evaluation_depends_on_view (program : Program) (rates : Rates) (steps : Nat)
    (accepts : machine.output.device.AcceptsAll)
    (otherAccepts : other.output.device.AcceptsAll) :
    (Calls.SameView machine.calls other.calls → ∀ expression : Expression,
      Outcome.Agrees machine.output other.output
        (expression.evaluate (.ofProgram program rates steps) machine)
        (expression.evaluate (.ofProgram program rates steps) other)) ∧
    (Calls.SameNumber machine.calls other.calls → ∀ callee arguments,
      Outcome.Agrees machine.output other.output
        ((Setting.ofProgram program rates steps).apply callee arguments machine)
        ((Setting.ofProgram program rates steps).apply callee arguments other)) ∧
    ∀ (expression : Expression) value after,
      expression.evaluate (.ofProgram program rates steps) machine = .finished (.ok value) after →
        ∃ again bytes,
          expression.evaluate (.ofProgram program rates steps) after =
            .finished (.ok value) again ∧
          machine.output.Grows bytes after.output ∧ after.output.Grows bytes again.output := by
  refine ⟨fun view => Expression.evaluate_agrees program rates steps accepts otherAccepts view,
    fun height => Setting.apply_agrees program rates steps accepts otherAccepts height, ?_⟩
  intro expression value after finished
  have kept := Expression.evaluate_keeps (Setting.ofProgram_keeps_calls program rates steps)
    expression machine _ after finished
  have stillAccepts : after.output.device.AcceptsAll := by
    rw [kept.output.device]
    exact accepts
  have sameView : Calls.SameView machine.calls after.calls := by
    rw [kept.calls]
    exact ⟨rfl, fun _ => rfl⟩
  have agrees := Expression.evaluate_agrees program rates steps accepts stillAccepts sameView
    expression
  rw [finished] at agrees
  cases repeated : expression.evaluate (.ofProgram program rates steps) after with
  | exhausted =>
      rw [repeated] at agrees
      cases agrees
  | finished result again =>
      rw [repeated] at agrees
      rcases agrees with ⟨rfl, bytes, first, second⟩
      exact ⟨again, bytes, rfl, first, second⟩

end

def reportProgram : Program :=
  Program.empty.insert
    { returnType := .int
      name := "report"
      parameters := [⟨none, "n"⟩]
      body :=
        [.call "print" [.reference "n"],
          .leave (some (.arithmetic .add (.reference "n") (.literal (.int 1))))] }

def hidingMachine : Machine :=
  ⟨[⟨[(∅ : Scope).insert "x" (.int 7), (∅ : Scope).insert "x" (.int 1)]⟩,
      ⟨[(∅ : Scope).insert "y" (.int 2)]⟩],
    ⟨.unlimited, #[0x0A], 0⟩⟩

def openMachine : Machine :=
  ⟨[⟨[∅, (∅ : Scope).insert "x" (.int 7)]⟩, ⟨[∅]⟩], .start .unlimited⟩

theorem hidingMachine_sameView_openMachine :
    Calls.SameView hidingMachine.calls openMachine.calls := by
  refine ⟨rfl, fun name => ?_⟩
  by_cases same : "x" = name
  · subst same
    rfl
  · simp [hidingMachine, openMachine, Context.value?, same]

theorem evaluation_depends_on_view_of_report :
    Outcome.Agrees hidingMachine.output openMachine.output
        ((Expression.call "report" [.reference "x"]).evaluate
          (.ofProgram reportProgram .empty 3) hidingMachine)
        ((Expression.call "report" [.reference "x"]).evaluate
          (.ofProgram reportProgram .empty 3) openMachine) ∧
      Outcome.Agrees hidingMachine.output openMachine.output
        ((Setting.ofProgram reportProgram .empty 3).apply (.builtin .print) [.int 7] hidingMachine)
        ((Setting.ofProgram reportProgram .empty 3).apply (.builtin .print) [.int 7] openMachine) ∧
      ∃ after again bytes,
        (Expression.call "report" [.reference "x"]).evaluate
            (.ofProgram reportProgram .empty 3) hidingMachine =
          .finished (.ok (.int 8)) after ∧
        (Expression.call "report" [.reference "x"]).evaluate
            (.ofProgram reportProgram .empty 3) after =
          .finished (.ok (.int 8)) again ∧
        hidingMachine.output.Grows bytes after.output ∧ after.output.Grows bytes again.output := by
  have accepts : Device.unlimited.AcceptsAll := fun _ _ => ⟨rfl, rfl⟩
  have machine : hidingMachine.output.device.AcceptsAll := accepts
  have other : openMachine.output.device.AcceptsAll := accepts
  rcases evaluation_depends_on_view reportProgram .empty 3 machine other with
    ⟨evaluated, applied, repeated⟩
  have finished : (Expression.call "report" [.reference "x"]).evaluate
      (.ofProgram reportProgram .empty 3) hidingMachine =
        .finished (.ok (.int 8))
          { hidingMachine with output := ⟨.unlimited, #[0x0A, 0x37, 0x0A], 1⟩ } := by
    cbv
  rcases repeated _ _ _ finished with ⟨again, bytes, equal, grows⟩
  exact ⟨evaluated hidingMachine_sameView_openMachine _, applied rfl _ _,
    _, again, bytes, finished, equal, grows⟩

end Ducat

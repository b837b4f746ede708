import Ducat.Proofs.Evaluation.Ignoring
import Ducat.Proofs.Evaluation.Interruption
import Ducat.Proofs.Evaluation.Moment.Failing
import Ducat.Proofs.Evaluation.Visibility

/-! Main statement: how many calls are active makes no difference to an evaluation, except that it
fails where they are too many. -/

namespace Ducat

namespace Calls

def AtMost (calls others : List Context) : Prop := calls.length ≤ others.length

structure Below (calls others : List Context) : Prop where
  height : calls.length ≤ others.length
  innermost : calls.head? = others.head?

theorem atMost_nests : Nests AtMost Below where
  enter _ atMost := ⟨Nat.succ_le_succ atMost, rfl⟩
  leave {calls others} below := by
    rw [AtMost, List.length_tail, List.length_tail]
    exact Nat.sub_le_sub_right below.height 1
  within below := below.height
  innermost below := below.innermost

theorem Nests.flip {outer inner : List Context → List Context → Prop} (nests : Nests outer inner) :
    Nests (flip outer) (flip inner) where
  enter context related := nests.enter context related
  leave related := nests.leave related
  within related := nests.within related
  innermost related := (nests.innermost related).symm

end Calls

/-- The calls of the two runs are related. The second run is stopped where it has too many of them,
and has then written a front part of what the first one has. -/
def Interruption.ofCalls (calls : List Context → List Context → Prop)
    (before otherBefore : Output) : Interruption where
  linked := Machine.Related calls before otherBefore
  stopped error output other :=
    (∃ function, error = .callDepthExceeded function maximumCallDepth) ∧
      ∃ shared rest, before.Grows (shared ++ rest) output ∧ otherBefore.Grows shared other

section

variable {outer inner : List Context → List Context → Prop} {before otherBefore : Output}

theorem Output.Grows.extend {before between after : Output} {bytes : List UInt8}
    (grows : before.Grows bytes between) (more : between.Extends after) :
    ∃ rest, before.Grows (bytes ++ rest) after := by
  rcases more.written with ⟨rest, written⟩
  exact ⟨rest, grows.trans ⟨more.device, written.symm⟩⟩

namespace Action

variable {α : Type} {good better : α → Prop} {first second : Action α}

theorem Refines.refinesUntil
    (refines : first.Refines (.ofCalls inner before otherBefore) good second)
    (kept : first.Keeps Machine.SameOuterCalls) (isGood : ∀ value, better value) :
    first.RefinesUntil (.ofCalls inner before otherBefore) better second where
  running {machine other result after} related finished := by
    rcases refines machine other related result after finished with
      ⟨otherAfter, otherFinished, stillRelated, _, _⟩
    exact ⟨fun value _ => isGood value, result, otherAfter, otherFinished, .alike stillRelated⟩
  stopped {error machine output result after} stopped finished := by
    rcases stopped with ⟨tooDeep, shared, rest, grows, otherGrows⟩
    rcases grows.extend (kept machine result after finished).output with ⟨more, stillGrows⟩
    rw [List.append_assoc] at stillGrows
    exact ⟨fun value _ => isGood value, tooDeep, shared, rest ++ more, stillGrows, otherGrows⟩

/-- Here alone the second run may be stopped. -/
theorem checkDepth_refinesUntil (function : String) :
    (checkDepth function).RefinesUntil (.ofCalls Calls.AtMost before otherBefore) (fun _ => True)
      (checkDepth function) where
  running {machine other result after} related finished := by
    refine ⟨fun _ _ => trivial, ?_⟩
    have atMost : machine.calls.length ≤ other.calls.length := related.calls
    by_cases deep : maximumCallDepth ≤ machine.calls.length
    · rw [checkDepth_of_deep deep] at finished
      cases finished
      exact ⟨_, other, checkDepth_of_deep (Nat.le_trans deep atMost) function, .alike related⟩
    · rw [checkDepth_of_shallow (Nat.lt_of_not_le deep)] at finished
      cases finished
      by_cases otherDeep : maximumCallDepth ≤ other.calls.length
      -- Up to now both runs have written the same.
      · rcases related.output with ⟨bytes, grows, otherGrows⟩
        rw [← List.append_nil bytes] at grows
        exact ⟨_, other, checkDepth_of_deep otherDeep function,
          .stopped ⟨⟨function, rfl⟩, bytes, [], grows, otherGrows⟩⟩
      · exact ⟨_, other, checkDepth_of_shallow (Nat.lt_of_not_le otherDeep) function,
          .alike related⟩
  stopped {error machine output result after} stopped finished := by
    cases eq_of_checkDepth finished
    exact ⟨fun _ _ => trivial, stopped⟩

end Action

namespace Interruption

open Calls

theorem ofCalls_allowsStatements (nests : Nests outer inner) :
    (ofCalls inner before otherBefore).comparison.AllowsStatements Discipline.free.good := by
  refine .of_updateCall (.of_currentCall ?_) (fun update _ => ?_) fun refines => ?_
  · exact (Action.currentCall_refines nests.innermost).refinesUntil Action.currentCall_keeps
      (Context.allGood_of_forall fun _ => trivial)
  · have changed := Action.updateCall_keeps
      (fun machine context _ => Machine.sameOuterCalls_withCall machine context) update
    exact (Action.updateCall_refines nests update).refinesUntil changed fun _ => trivial
  · refine Action.restoring_refinesUntil refines Machine.closeScope_output ?_
    exact fun _ _ related => related.closeScope nests

theorem ofCalls_carriesCalls (within : ∀ {calls others}, inner calls others → outer calls others)
    (program : Program) (rates : Rates) :
    (ofCalls outer before otherBefore).comparison.CarriesCalls
      (ofCalls inner before otherBefore).comparison program rates rates := by
  intro callee arguments steps more good refines
  have kept := Setting.ofProgram_keeps_calls program rates
  constructor
  · intro machine other result after related finished
    have outside : Machine.Related outer before otherBefore machine other :=
      ⟨within related.calls, related.output⟩
    rcases refines.running outside finished with ⟨isGood, ending, otherAfter, otherFinished, ends⟩
    refine ⟨isGood, ending, otherAfter, otherFinished, ?_⟩
    cases ends with
    | stopped stopped => exact .stopped stopped
    | alike stillRelated =>
        refine .alike ⟨?_, stillRelated.output⟩
        rw [(kept steps _ _ _ _ _ finished).calls, (kept more _ _ _ _ _ otherFinished).calls]
        exact related.calls
  · exact refines.stopped

theorem atMost_allowsCalls (accepts : before.device.AcceptsAll)
    (otherAccepts : otherBefore.device.AcceptsAll) (program : Program) (rates : Rates) :
    (ofCalls AtMost before otherBefore).comparison.AllowsCalls
      (ofCalls Below before otherBefore).comparison Discipline.free.good program rates rates where
  carried := ofCalls_carriesCalls atMost_nests.within program rates
  statements := ofCalls_allowsStatements atMost_nests
  checkDepth := Action.checkDepth_refinesUntil
  inCall {_ _ scope} _ refines := by
    refine Action.inCall_refinesUntil refines rfl ?_ ?_
    · exact fun _ _ related => ⟨atMost_nests.enter (.ofScope scope) related.calls, related.output⟩
    · exact fun _ _ related => ⟨atMost_nests.leave related.calls, related.output⟩
  writeLine text :=
    (Action.writeLine_refines accepts otherAccepts text).refinesUntil
      ((Action.writeLine_keeps_calls text).mono fun _ _ same => same.outer) fun _ => trivial
  flush :=
    (Action.flush_refines accepts otherAccepts).refinesUntil
      (Action.flush_keeps_calls.mono fun _ _ same => same.outer) fun _ => trivial

end Interruption

end

def RuntimeError.isCallDepthExceeded : RuntimeError → Bool
  | callDepthExceeded _ _ => true
  | _ => false

theorem RuntimeError.isCallDepthExceeded_eq_false {error : RuntimeError}
    (other : ∀ function limit, error ≠ .callDepthExceeded function limit) :
    error.isCallDepthExceeded = false := by
  cases error with
  | callDepthExceeded function limit => exact absurd rfl (other function limit)
  | _ => rfl

section

variable {before otherBefore : Output}

/-- The first run has the same calls in a larger number, and does not count where they are too
many. -/
theorem Action.checkDepth_refines_ignoring (function : String) :
    ((checkDepth function).ignoring RuntimeError.isCallDepthExceeded).Refines
      (.ofCalls (flip Calls.AtMost) before otherBefore) (fun _ => True) (checkDepth function) := by
  intro machine other related result after finished
  rcases finished_of_ignoring finished with ⟨finished, counts⟩
  have atMost : other.calls.length ≤ machine.calls.length := related.calls
  by_cases deep : maximumCallDepth ≤ machine.calls.length
  · rw [checkDepth_of_deep deep] at finished
    cases finished
    cases counts _ rfl
  · rw [checkDepth_of_shallow (Nat.lt_of_not_le deep)] at finished
    cases finished
    have shallow : other.calls.length < maximumCallDepth := by omega
    exact ⟨other, checkDepth_of_shallow shallow function, related, trivial, fun _ _ => trivial⟩

theorem Action.Keeps.ignoring {α : Type} {relation : Machine → Machine → Prop} {action : Action α}
    (kept : action.Keeps relation) (ignored : RuntimeError → Bool) :
    (action.ignoring ignored).Keeps relation :=
  fun before result after finished => kept before result after (finished_of_ignoring finished).1

theorem Coupling.flip_atMost_allowsCalls (accepts : before.device.AcceptsAll)
    (otherAccepts : otherBefore.device.AcceptsAll) (program : Program) (rates : Rates) :
    ((ofCalls (flip Calls.AtMost) before otherBefore).ignoring
        RuntimeError.isCallDepthExceeded).AllowsCalls
      ((ofCalls (flip Calls.Below) before otherBefore).ignoring RuntimeError.isCallDepthExceeded)
      Discipline.free.good program rates rates where
  carried {callee arguments steps more _} refines := by
    have kept := Setting.ofProgram_keeps_calls program rates
    exact refines.within Calls.atMost_nests.flip.within ((kept steps callee arguments).ignoring _)
      (kept more callee arguments)
  statements := (ofCalls_allowsStatements Calls.atMost_nests.flip).ignoring
  checkDepth := Action.checkDepth_refines_ignoring
  inCall scopeGood refines :=
    (Action.inCall_refines (ofCalls_allowsEntering Calls.atMost_nests.flip) refines
      scopeGood).of_finished Action.inCall_of_ignoring
  writeLine text := (Action.writeLine_refines accepts otherAccepts text).ignoring _
  flush := (Action.flush_refines accepts otherAccepts).ignoring _

end

section

variable (program : Program) (rates : Rates) (steps : Nat) {machine other : Machine}

theorem Expression.evaluate_refinesUntil_below {before otherBefore : Output}
    (accepts : before.device.AcceptsAll) (otherAccepts : otherBefore.device.AcceptsAll)
    (expression : Expression) :
    (expression.evaluate (.ofProgram program rates steps)).RefinesUntil
      (.ofCalls Calls.Below before otherBefore) Discipline.free.good
      (expression.evaluate (.ofProgram program rates steps)) :=
  expression.evaluate_compares_inside
    (Interruption.atMost_allowsCalls accepts otherAccepts program rates)
    (Discipline.free_allowsProgram program) (Discipline.free.sameCasts_self rates)
    (Nat.le_refl steps) trivial

theorem Expression.evaluate_refines_ignoring_below {before otherBefore : Output}
    (accepts : before.device.AcceptsAll) (otherAccepts : otherBefore.device.AcceptsAll)
    (expression : Expression) :
    ((expression.evaluate (.ofProgram program rates steps)).ignoring
        RuntimeError.isCallDepthExceeded).Refines
      (.ofCalls (flip Calls.Below) before otherBefore) Discipline.free.good
      (expression.evaluate (.ofProgram program rates steps)) :=
  expression.evaluate_compares_inside
    (Coupling.flip_atMost_allowsCalls accepts otherAccepts program rates)
    (Discipline.free_allowsProgram program) (Discipline.free.sameCasts_self rates)
    (Nat.le_refl steps) trivial

/-- An evaluation is the same below any number of calls, as long as it can nest its own ones.
Otherwise it fails where the limit is exceeded, and nothing recovers from that. -/
theorem evaluation_is_alike_unless_too_deep (accepts : machine.output.device.AcceptsAll)
    (otherAccepts : other.output.device.AcceptsAll)
    (below : Calls.Below machine.calls other.calls) (expression : Expression) :
    (∀ result after,
      expression.evaluate (.ofProgram program rates steps) machine = .finished result after →
        Outcome.Agrees machine.output other.output
            (expression.evaluate (.ofProgram program rates steps) machine)
            (expression.evaluate (.ofProgram program rates steps) other) ∨
          ∃ function otherAfter shared rest,
            expression.evaluate (.ofProgram program rates steps) other =
              .finished (.error (.callDepthExceeded function maximumCallDepth)) otherAfter ∧
            machine.output.Grows (shared ++ rest) after.output ∧
            other.output.Grows shared otherAfter.output) ∧
    (∀ result otherAfter,
      expression.evaluate (.ofProgram program rates steps) other = .finished result otherAfter →
        (∀ function limit, result ≠ .error (.callDepthExceeded function limit)) →
          Outcome.Agrees machine.output other.output
            (expression.evaluate (.ofProgram program rates steps) machine)
            (expression.evaluate (.ofProgram program rates steps) other)) ∧
    ∀ (first last : Moment) function limit output,
      Relation.ReflTransGen (Moment.LeadsTo program rates) first last →
        last.FailsWith program rates (.callDepthExceeded function limit) output →
          first.FailsWith program rates (.callDepthExceeded function limit) output := by
  refine ⟨fun result after finished => ?_, fun result otherAfter finished counts => ?_,
    fun first last function limit output reached fails => Moment.fails_of_leadsTo reached fails⟩
  · have refines := Expression.evaluate_refinesUntil_below program rates steps accepts
      otherAccepts expression
    rcases refines.running ⟨below, [], .refl _, .refl _⟩ finished with
      ⟨_, ending, otherAfter, otherFinished, ends⟩
    cases ends with
    | alike related =>
        rw [finished, otherFinished]
        exact .inl ⟨rfl, related.output⟩
    | stopped stopped =>
        rcases stopped with ⟨⟨function, rfl⟩, shared, rest, grows, otherGrows⟩
        exact .inr ⟨function, otherAfter, shared, rest, otherFinished, grows, otherGrows⟩
  · have refines := Expression.evaluate_refines_ignoring_below program rates steps otherAccepts
      accepts expression
    have counted : ∀ error, result = .error error → error.isCallDepthExceeded = false := by
      rintro error rfl
      refine RuntimeError.isCallDepthExceeded_eq_false fun function limit equal => ?_
      exact counts function limit (congrArg Except.error equal)
    rcases refines other machine ⟨below, [], .refl _, .refl _⟩
      result otherAfter (Action.ignoring_of_finished finished counted) with
      ⟨after, ran, ⟨_, bytes, otherGrows, grows⟩, _⟩
    rw [finished, ran]
    exact ⟨rfl, bytes, grows, otherGrows⟩

end

def descendingProgram : Program :=
  reportProgram.insert
    { returnType := .int
      name := "descend"
      parameters := [⟨none, "n"⟩]
      body :=
        [.call "print" [.reference "n"],
          .leave (some (.call "report" [.reference "n"]))] }

def descent : Expression := .call "descend" [.reference "x"]

def deepMachine (height : Nat) : Machine :=
  ⟨⟨[(∅ : Scope).insert "x" (.int 7)]⟩ :: List.replicate height ⟨[]⟩, .start .unlimited⟩

theorem deepMachine_below {height more : Nat} (le : height ≤ more) :
    Calls.Below (deepMachine height).calls (deepMachine more).calls := by
  refine ⟨?_, rfl⟩
  simpa [deepMachine] using le

def finishedOutput : Output := ⟨.unlimited, #[0x37, 0x0A, 0x37, 0x0A], 2⟩

def stoppedOutput : Output := ⟨.unlimited, #[0x37, 0x0A], 1⟩

-- The machine of the second run is written out, with all its calls.
set_option maxRecDepth 4000 in
theorem evaluation_is_alike_unless_too_deep_of_descent :
    descent.evaluate (.ofProgram descendingProgram .empty 3) (deepMachine 0) =
        .finished (.ok (.int 8)) { deepMachine 0 with output := finishedOutput } ∧
      (∃ shared rest, (deepMachine 0).output.Grows (shared ++ rest) finishedOutput ∧
        (deepMachine 998).output.Grows shared stoppedOutput) ∧
      Outcome.Agrees (deepMachine 0).output (deepMachine 5).output
        (descent.evaluate (.ofProgram descendingProgram .empty 3) (deepMachine 0))
        (descent.evaluate (.ofProgram descendingProgram .empty 3) (deepMachine 5)) ∧
      Moment.FailsWith descendingProgram .empty (.callDepthExceeded "report" 1000) stoppedOutput
        ⟨.evaluation (.negation descent), deepMachine 998⟩ := by
  have accepts : ∀ height, (deepMachine height).output.device.AcceptsAll :=
    fun _ _ _ => ⟨rfl, rfl⟩
  have finished : descent.evaluate (.ofProgram descendingProgram .empty 3) (deepMachine 0) =
      .finished (.ok (.int 8)) { deepMachine 0 with output := finishedOutput } := by
    cbv
  have deeper : descent.evaluate (.ofProgram descendingProgram .empty 3) (deepMachine 5) =
      .finished (.ok (.int 8)) { deepMachine 5 with output := finishedOutput } := by
    cbv
  have failed : descent.evaluate (.ofProgram descendingProgram .empty 3) (deepMachine 998) =
      .finished (.error (.callDepthExceeded "report" 1000))
        { deepMachine 998 with output := stoppedOutput } := by
    cbv
  have near := evaluation_is_alike_unless_too_deep descendingProgram .empty 3 (accepts 0)
    (accepts 5) (deepMachine_below (by decide)) descent
  have far := evaluation_is_alike_unless_too_deep descendingProgram .empty 3 (accepts 0)
    (accepts 998) (deepMachine_below (by decide)) descent
  refine ⟨finished, ?_, near.2.1 _ _ deeper (by simp), ?_⟩
  · rcases far.1 _ _ finished with agrees | ⟨_, _, shared, rest, stopped, grows, otherGrows⟩
    · rw [finished, failed] at agrees
      cases agrees.1
    · rw [failed] at stopped
      cases stopped
      exact ⟨shared, rest, grows, otherGrows⟩
  · have operand : Moment.LeadsTo descendingProgram .empty
        ⟨.evaluation (.negation descent), deepMachine 998⟩
        ⟨.evaluation descent, deepMachine 998⟩ := .firstOperand rfl
    exact far.2.2 _ _ _ _ _ (.single operand) (Expression.fails_of_finished failed)

end Ducat

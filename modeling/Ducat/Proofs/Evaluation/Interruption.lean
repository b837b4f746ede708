import Ducat.Proofs.Evaluation.Comparison.Call

/-! Two runs side by side of which the second one may be stopped by an error of its own. Nothing in
a program takes notice of an error, so that the second run stays stopped from then on. -/

namespace Ducat

structure Interruption where
  /-- The machines are linked as long as the second run is not stopped. -/
  linked : Machine → Machine → Prop
  /-- What the first run has written, and what the second one had when it was stopped. -/
  stopped : RuntimeError → Output → Output → Prop

namespace Interruption

def ofOutputs (alike : Output → Output → Prop) (stopped : RuntimeError → Output → Output → Prop) :
    Interruption where
  linked machine other := other.calls = machine.calls ∧ alike machine.output other.output
  stopped := stopped

inductive Ends (interruption : Interruption) {α : Type} (result : Except RuntimeError α)
    (after : Machine) : Except RuntimeError α → Machine → Prop where
  | alike {otherAfter : Machine} (linked : interruption.linked after otherAfter) :
      Ends interruption result after result otherAfter
  | stopped {error : RuntimeError} {otherAfter : Machine}
      (stopped : interruption.stopped error after.output otherAfter.output) :
      Ends interruption result after (.error error) otherAfter

end Interruption

namespace Action

variable {interruption : Interruption} {α β : Type} {good : α → Prop} {better : β → Prop}

/-- From linked machines, whenever the first action finishes, the second one finishes with the same
result or is stopped. If the second run was stopped before, it is still so behind the first
action. -/
structure RefinesUntil (interruption : Interruption) (good : α → Prop) (first second : Action α) :
    Prop where
  running : ∀ {machine other result after}, interruption.linked machine other →
    first machine = .finished result after →
      (∀ value, result = .ok value → good value) ∧
        ∃ ending otherAfter, second other = .finished ending otherAfter ∧
          interruption.Ends result after ending otherAfter
  stopped : ∀ {error machine output result after},
    interruption.stopped error machine.output output → first machine = .finished result after →
      (∀ value, result = .ok value → good value) ∧ interruption.stopped error after.output output

theorem exhaust_refinesUntil (action : Action α) :
    (exhaust : Action α).RefinesUntil interruption good action where
  running _ finished := by cases finished
  stopped _ finished := by cases finished

theorem pure_refinesUntil {value : α} (isGood : good value) :
    (pure value : Action α).RefinesUntil interruption good (pure value) where
  running {machine other result after} linked finished := by
    cases finished
    refine ⟨fun _ equal => ?_, _, other, rfl, .alike linked⟩
    cases equal
    exact isGood
  stopped stopped finished := by
    cases finished
    refine ⟨fun _ equal => ?_, stopped⟩
    cases equal
    exact isGood

theorem fail_refinesUntil (error : RuntimeError) :
    (fail error : Action α).RefinesUntil interruption good (fail error) where
  running {machine other result after} linked finished := by
    cases finished
    exact ⟨nofun, _, other, rfl, .alike linked⟩
  stopped stopped finished := by
    cases finished
    exact ⟨nofun, stopped⟩

theorem bind_refinesUntil {first second : Action α} {continuation following : α → Action β}
    (refines : first.RefinesUntil interruption good second)
    (behind : ∀ value, good value →
      (continuation value).RefinesUntil interruption better (following value)) :
    (first >>= continuation).RefinesUntil interruption better (second >>= following) where
  running {machine other result after} linked finished := by
    cases ran : first machine with
    | exhausted =>
        rw [bind_of_exhausted ran] at finished
        cases finished
    | finished outcome between =>
        rcases refines.running linked ran with ⟨isGood, ending, otherBetween, otherRan, ends⟩
        cases outcome with
        | error error =>
            rw [bind_of_error ran] at finished
            cases finished
            refine ⟨nofun, ?_⟩
            cases ends with
            | alike linked => exact ⟨_, otherBetween, bind_of_error otherRan, .alike linked⟩
            | stopped stopped => exact ⟨_, otherBetween, bind_of_error otherRan, .stopped stopped⟩
        | ok value =>
            rw [bind_of_ok ran] at finished
            cases ends with
            | alike linked =>
                rw [bind_of_ok otherRan]
                exact (behind value (isGood value rfl)).running linked finished
            | stopped stopped =>
                rcases (behind value (isGood value rfl)).stopped stopped finished with
                  ⟨resultGood, stillStopped⟩
                exact ⟨resultGood, _, otherBetween, bind_of_error otherRan, .stopped stillStopped⟩
  stopped {error machine output result after} stopped finished := by
    cases ran : first machine with
    | exhausted =>
        rw [bind_of_exhausted ran] at finished
        cases finished
    | finished outcome between =>
        rcases refines.stopped stopped ran with ⟨isGood, stillStopped⟩
        cases outcome with
        | error error =>
            rw [bind_of_error ran] at finished
            cases finished
            exact ⟨nofun, stillStopped⟩
        | ok value =>
            rw [bind_of_ok ran] at finished
            exact (behind value (isGood value rfl)).stopped stillStopped finished

theorem restoring_refinesUntil {restore : Machine → Machine} {first second : Action α}
    (refines : first.RefinesUntil interruption good second)
    (output : ∀ machine, (restore machine).output = machine.output)
    (restores : ∀ machine other, interruption.linked machine other →
      interruption.linked (restore machine) (restore other)) :
    (restoring restore first).RefinesUntil interruption good (restoring restore second) where
  running {machine other result after} linked finished := by
    rcases exists_of_restoring finished with ⟨between, ran, rfl⟩
    rcases refines.running linked ran with ⟨isGood, ending, otherBetween, otherRan, ends⟩
    refine ⟨isGood, ending, restore otherBetween, restoring_of_finished otherRan, ?_⟩
    cases ends with
    | alike linked => exact .alike (restores between otherBetween linked)
    | stopped stopped =>
        rw [← output between, ← output otherBetween] at stopped
        exact .stopped stopped
  stopped {error machine written result after} stopped finished := by
    rcases exists_of_restoring finished with ⟨between, ran, rfl⟩
    rw [output between]
    exact refines.stopped stopped ran

theorem inCall_refinesUntil {outer : Interruption} {scope : Scope} {first second : Action α}
    (refines : first.RefinesUntil interruption good second)
    (sameStopped : outer.stopped = interruption.stopped)
    (enter : ∀ machine other, outer.linked machine other →
      interruption.linked (machine.enterCall (.ofScope scope)) (other.enterCall (.ofScope scope)))
    (leave : ∀ machine other, interruption.linked machine other →
      outer.linked machine.leaveCall other.leaveCall) :
    (inCall scope first).RefinesUntil outer good (inCall scope second) where
  running {machine other result after} linked finished := by
    rcases exists_of_restoring finished with ⟨between, ran, rfl⟩
    rcases refines.running (enter machine other linked) ran with
      ⟨isGood, ending, otherBetween, otherRan, ends⟩
    refine ⟨isGood, ending, otherBetween.leaveCall, restoring_of_finished otherRan, ?_⟩
    cases ends with
    | alike linked => exact .alike (leave between otherBetween linked)
    | stopped stopped =>
        rw [← sameStopped] at stopped
        exact .stopped stopped
  stopped {error machine written result after} stopped finished := by
    rcases exists_of_restoring finished with ⟨between, ran, rfl⟩
    rw [sameStopped] at stopped ⊢
    have entered : interruption.stopped error (machine.enterCall (.ofScope scope)).output written :=
      stopped
    have stillStopped := refines.stopped entered ran
    exact stillStopped

end Action

def Interruption.comparison (interruption : Interruption) : Comparison where
  holds := Action.RefinesUntil interruption
  exhaust _ := Action.exhaust_refinesUntil
  pure := Action.pure_refinesUntil
  fail _ := Action.fail_refinesUntil
  bind := Action.bind_refinesUntil

namespace Action

variable {α : Type} {good : α → Prop} {alike : Output → Output → Prop}
variable {stopped : RuntimeError → Output → Output → Prop}

/-- The action depends only on the active calls, and changes nothing else. -/
def IsOnCalls (action : Action α) : Prop :=
  ∃ effect : List Context → Except RuntimeError α × List Context, ∀ machine,
    action machine =
      .finished (effect machine.calls).1 { machine with calls := (effect machine.calls).2 }

theorem IsOnCalls.refinesUntil {action : Action α} (onCalls : action.IsOnCalls)
    (isGood : ∀ value, good value) :
    action.RefinesUntil (.ofOutputs alike stopped) good action where
  running {machine other result after} linked finished := by
    rcases onCalls with ⟨effect, ran⟩
    rcases linked with ⟨calls, outputs⟩
    rw [ran] at finished
    cases finished
    refine ⟨fun value _ => isGood value, _, _, ran other, ?_⟩
    rw [calls]
    exact .alike ⟨rfl, outputs⟩
  stopped {error machine written result after} stopped finished := by
    rcases onCalls with ⟨effect, ran⟩
    rw [ran] at finished
    cases finished
    exact ⟨fun value _ => isGood value, stopped⟩

def currentIn : List Context → Except RuntimeError Context × List Context
  | [] => (.error .noActiveCall, [])
  | context :: outer => (.ok context, context :: outer)

def updateIn (update : Context → Except RuntimeError Context) :
    List Context → Except RuntimeError Unit × List Context
  | [] => (.error .noActiveCall, [])
  | context :: outer =>
      match update context with
      | .error error => (.error error, context :: outer)
      | .ok updated => (.ok (), updated :: outer)

theorem currentCall_isOnCalls : currentCall.IsOnCalls := by
  refine ⟨currentIn, fun machine => ?_⟩
  rcases machine with ⟨_ | ⟨context, outer⟩, output⟩ <;> rfl

theorem callDepth_isOnCalls : callDepth.IsOnCalls :=
  ⟨fun calls => (.ok calls.length, calls), fun _ => rfl⟩

theorem updateCall_isOnCalls (update : Context → Except RuntimeError Context) :
    (updateCall update).IsOnCalls := by
  refine ⟨updateIn update, fun machine => ?_⟩
  rcases machine with ⟨_ | ⟨context, outer⟩, output⟩
  · rfl
  · cases updated : update context with
    | error error =>
        rw [updateIn, updated]
        exact updateCall_of_error rfl updated
    | ok changed =>
        rw [updateIn, updated]
        exact updateCall_of_ok rfl updated

end Action

namespace Machine

theorem closeScope_output (machine : Machine) : machine.closeScope.output = machine.output := by
  unfold closeScope
  split <;> rfl

theorem closeScope_calls {machine other : Machine} (same : other.calls = machine.calls) :
    other.closeScope.calls = machine.closeScope.calls := by
  unfold closeScope
  rw [same]
  split
  next idle => rw [same, idle]
  next => rfl

end Machine

namespace Interruption

variable {alike : Output → Output → Prop} {stopped : RuntimeError → Output → Output → Prop}

theorem ofOutputs_allowsReading :
    (ofOutputs alike stopped).comparison.AllowsReading Discipline.free.good :=
  .of_currentCall
    (Action.currentCall_isOnCalls.refinesUntil (Context.allGood_of_forall fun _ => trivial))

theorem ofOutputs_allowsStatements :
    (ofOutputs alike stopped).comparison.AllowsStatements Discipline.free.good := by
  refine .of_updateCall ofOutputs_allowsReading ?_ fun refines => ?_
  · exact fun update _ => (Action.updateCall_isOnCalls update).refinesUntil fun _ => trivial
  · refine Action.restoring_refinesUntil refines Machine.closeScope_output ?_
    intro machine other ⟨calls, outputs⟩
    refine ⟨Machine.closeScope_calls calls, ?_⟩
    rw [Machine.closeScope_output, Machine.closeScope_output]
    exact outputs

theorem ofOutputs_allowsCalls (program : Program) (rates : Rates)
    (writeLine : ∀ text, (Action.writeLine text).RefinesUntil (ofOutputs alike stopped)
      (fun _ => True) (Action.writeLine text))
    (flush : Action.flush.RefinesUntil (ofOutputs alike stopped) (fun _ => True) Action.flush) :
    (ofOutputs alike stopped).comparison.AllowsCalls (ofOutputs alike stopped).comparison
      Discipline.free.good program rates rates where
  carried refines := refines
  statements := ofOutputs_allowsStatements
  checkDepth function := by
    have height : Action.callDepth.RefinesUntil (ofOutputs alike stopped) (fun _ => True)
        Action.callDepth := Action.callDepth_isOnCalls.refinesUntil fun _ => trivial
    refine Action.bind_refinesUntil height fun depth _ => ?_
    split
    · exact Action.fail_refinesUntil _
    · exact Action.pure_refinesUntil trivial
  inCall {_ _ scope} _ refines := by
    refine Action.inCall_refinesUntil refines rfl ?_ ?_
    · exact fun machine other ⟨calls, outputs⟩ =>
        ⟨congrArg (Context.ofScope scope :: ·) calls, outputs⟩
    · exact fun machine other ⟨calls, outputs⟩ => ⟨congrArg List.tail calls, outputs⟩
  writeLine := writeLine
  flush := flush

end Interruption

end Ducat

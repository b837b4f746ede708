import Ducat.Machine

/-! Actions of a machine: they finish with a result or an error, or run out of steps first. -/

namespace Ducat

inductive Outcome (α : Type) where
  /-- The steps that were allowed did not suffice. -/
  | exhausted
  | finished (result : Except RuntimeError α) (machine : Machine)

def Action (α : Type) := Machine → Outcome α

namespace Action

instance : Monad Action where
  pure result := fun machine => .finished (.ok result) machine
  bind action continuation := fun machine =>
    match action machine with
    | .exhausted => .exhausted
    | .finished (.error error) machine => .finished (.error error) machine
    | .finished (.ok result) machine => continuation result machine

section

variable {α β : Type} {action : Action α} {continuation : α → Action β} {machine after : Machine}

theorem bind_of_exhausted (ran : action machine = .exhausted) :
    (action >>= continuation) machine = .exhausted := by
  simp only [bind, ran]

theorem bind_of_error {error : RuntimeError}
    (ran : action machine = .finished (.error error) after) :
    (action >>= continuation) machine = .finished (.error error) after := by
  simp only [bind, ran]

theorem bind_of_ok {result : α} (ran : action machine = .finished (.ok result) after) :
    (action >>= continuation) machine = continuation result after := by
  simp only [bind, ran]

end

def fail {α : Type} (error : RuntimeError) : Action α :=
  fun machine => .finished (.error error) machine

def exhaust {α : Type} : Action α := fun _ => .exhausted

instance : MonadLift (Except RuntimeError) Action where
  monadLift
    | .ok result => pure result
    | .error error => fail error

def currentCall : Action Context := fun machine =>
  match machine.calls with
  | [] => .finished (.error .noActiveCall) machine
  | context :: _ => .finished (.ok context) machine

def updateCall (update : Context → Except RuntimeError Context) : Action Unit := do
  let context ← update (← currentCall)
  fun machine => .finished (.ok ()) (machine.withCall context)

def read (name : String) : Action Value := do
  match (← currentCall).value? name with
  | some value => return value
  | none => fail (.unknownVariable name)

def define (name : String) (value : Value) : Action Unit :=
  updateCall fun context => context.define name value

def assign (name : String) (value : Value) : Action Unit :=
  updateCall fun context => context.assign name value

/-- Runs an action in a scope of its own, which is closed however the action ends. -/
def inScope {α : Type} (action : Action α) : Action α := do
  updateCall fun context => .ok context.openScope
  fun machine =>
    match action machine with
    | .exhausted => .exhausted
    | .finished result machine => .finished result machine.closeScope

def inCall {α : Type} (scope : Scope) (action : Action α) : Action α := fun machine =>
  match action (machine.enterCall (.ofScope scope)) with
  | .exhausted => .exhausted
  | .finished result machine => .finished result machine.leaveCall

def restoring {α : Type} (restore : Machine → Machine) (action : Action α) : Action α :=
  fun machine =>
    match action machine with
    | .exhausted => .exhausted
    | .finished result machine => .finished result (restore machine)

theorem inScope_eq_restoring {α : Type} (action : Action α) :
    inScope action =
      updateCall (fun context => .ok context.openScope) >>=
        fun _ => restoring Machine.closeScope action := rfl

theorem inCall_eq_restoring {α : Type} (scope : Scope) (action : Action α) (machine : Machine) :
    inCall scope action machine =
      restoring Machine.leaveCall action (machine.enterCall (.ofScope scope)) := rfl

section

variable {α : Type} {restore : Machine → Machine} {action : Action α} {machine after : Machine}
variable {result : Except RuntimeError α}

theorem restoring_of_finished (ran : action machine = .finished result after) :
    restoring restore action machine = .finished result (restore after) := by
  simp only [restoring, ran]

theorem exists_of_restoring (finished : restoring restore action machine = .finished result after) :
    ∃ between, action machine = .finished result between ∧ after = restore between := by
  unfold restoring at finished
  split at finished <;> cases finished
  next between ran => exact ⟨between, ran, rfl⟩

end

section

variable {update : Context → Except RuntimeError Context} {machine : Machine} {context : Context}
variable {outer : List Context}

theorem updateCall_of_idle (idle : machine.calls = []) :
    updateCall update machine = .finished (.error .noActiveCall) machine := by
  simp only [updateCall, currentCall, bind, idle]

theorem updateCall_of_error {error : RuntimeError} (active : machine.calls = context :: outer)
    (failed : update context = .error error) :
    updateCall update machine = .finished (.error error) machine := by
  simp only [updateCall, currentCall, bind, active, failed]
  rfl

theorem updateCall_of_ok {updated : Context} (active : machine.calls = context :: outer)
    (succeeded : update context = .ok updated) :
    updateCall update machine = .finished (.ok ()) (machine.withCall updated) := by
  simp only [updateCall, currentCall, bind, active, succeeded]
  rfl

theorem inScope_of_idle {α : Type} (action : Action α) (idle : machine.calls = []) :
    inScope action machine = .finished (.error .noActiveCall) machine :=
  bind_of_error (updateCall_of_idle idle)

theorem inScope_of_active {α : Type} (action : Action α)
    (active : machine.calls = context :: outer) :
    inScope action machine =
      restoring Machine.closeScope action (machine.withCall context.openScope) :=
  bind_of_ok (updateCall_of_ok active rfl)

end

def callDepth : Action Nat := fun machine =>
  .finished (.ok machine.calls.length) machine

def onOutput (effect : Output → Option String × Output) : Action Unit := fun machine =>
  match effect machine.output with
  | (none, output) => .finished (.ok ()) { machine with output := output }
  | (some reason, output) =>
      .finished (.error (.outputFailed reason)) { machine with output := output }

def writeLine (text : String) : Action Unit :=
  onOutput fun output => output.write (Output.lineBytes text)

def flush : Action Unit := onOutput Output.flush

end Action

end Ducat

import Ducat.Proofs.Evaluation.Frame

/-! Two runs whose calls are related, and whose outputs are. All that a program does by itself keeps
them so if the innermost calls are the same, and its functions do if there are as many calls. -/

namespace Ducat

structure Machine.Alike (calls : List Context → List Context → Prop)
    (outputs : Output → Output → Prop) (machine other : Machine) : Prop where
  calls : calls machine.calls other.calls
  output : outputs machine.output other.output

def Coupling.ofAlike (calls : List Context → List Context → Prop)
    (outputs : Output → Output → Prop) : Coupling :=
  .ofLink (Machine.Alike calls outputs)

/-- Linked machines are alike, and stay linked while their calls do not change and their outputs are
alike. -/
structure Coupling.RestsOn (coupling : Coupling) (calls : List Context → List Context → Prop)
    (outputs : Output → Output → Prop) : Prop where
  alike : ∀ {machine other}, coupling.linked machine other →
    Machine.Alike calls outputs machine other
  linked : ∀ {machine other after otherAfter}, coupling.linked machine other →
    machine.SameCalls after → other.SameCalls otherAfter →
      outputs after.output otherAfter.output → coupling.linked after otherAfter
  moves : ∀ {machine after}, machine.SameCalls after → coupling.moves machine after

namespace Calls

def SameNumber (calls others : List Context) : Prop := calls.length = others.length

structure SameInnermost (calls others : List Context) : Prop where
  height : calls.length = others.length
  innermost : calls.head? = others.head?

theorem SameNumber.symm {calls others : List Context} (same : SameNumber calls others) :
    SameNumber others calls :=
  Eq.symm same

/-- Calls that are related by `outer` are related by `inner` if the same call is active inside of
them. -/
structure Nests (outer inner : List Context → List Context → Prop) : Prop where
  enter : ∀ {calls others} (context : Context), outer calls others →
    inner (context :: calls) (context :: others)
  leave : ∀ {calls others}, inner calls others → outer calls.tail others.tail
  within : ∀ {calls others}, inner calls others → outer calls others
  innermost : ∀ {calls others}, inner calls others → calls.head? = others.head?

theorem sameNumber_nests : Nests SameNumber SameInnermost where
  enter _ same := ⟨congrArg (· + 1) same, rfl⟩
  leave {calls others} same := by
    rw [SameNumber, List.length_tail, List.length_tail, same.height]
  within same := same.height
  innermost same := same.innermost

end Calls

section

variable {outer inner : List Context → List Context → Prop} {outputs : Output → Output → Prop}

namespace Machine.Alike

variable {machine other : Machine}

theorem withCall (nests : Calls.Nests outer inner) (alike : Alike inner outputs machine other)
    (context : Context) :
    Alike inner outputs (machine.withCall context) (other.withCall context) :=
  ⟨nests.enter context (nests.leave alike.calls), alike.output⟩

theorem closeScope (nests : Calls.Nests outer inner) (alike : Alike inner outputs machine other) :
    Alike inner outputs machine.closeScope other.closeScope := by
  have innermost := nests.innermost alike.calls
  cases active : machine.calls with
  | nil =>
      rw [active] at innermost
      rw [closeScope_of_idle active, closeScope_of_idle (List.head?_eq_none_iff.mp innermost.symm)]
      exact alike
  | cons context others =>
      rw [active] at innermost
      rcases List.head?_eq_some_iff.mp innermost.symm with ⟨otherOthers, otherActive⟩
      rw [closeScope_of_active active, closeScope_of_active otherActive]
      exact alike.withCall nests context.closeScope

end Machine.Alike

namespace Action

theorem onOutput_refines_alike {calls : List Context → List Context → Prop}
    {effect : Output → Option String × Output}
    (same : ∀ output other, outputs output other →
      (effect output).1 = (effect other).1 ∧ outputs (effect output).2 (effect other).2) :
    (onOutput effect).Refines (.ofAlike calls outputs) (fun _ => True) (onOutput effect) := by
  intro machine other alike result after finished
  rcases same machine.output other.output alike.output with ⟨failure, still⟩
  unfold onOutput at finished ⊢
  generalize effect machine.output = written at finished failure still
  generalize effect other.output = otherWritten at failure still ⊢
  rcases written with ⟨reason, output⟩
  rcases otherWritten with ⟨_, otherOutput⟩
  cases failure
  cases reason <;> cases finished <;>
    exact ⟨_, rfl, ⟨alike.calls, still⟩, trivial, fun _ _ => trivial⟩

theorem currentCall_refines_alike {calls : List Context → List Context → Prop}
    (innermost : ∀ {first second}, calls first second → first.head? = second.head?) :
    currentCall.Refines (.ofAlike calls outputs) (fun _ => True) currentCall := by
  rintro ⟨first, output⟩ ⟨second, otherOutput⟩ alike result after finished
  have same : first.head? = second.head? := innermost alike.calls
  cases first <;> cases second <;> cases same <;> cases finished <;>
    exact ⟨_, rfl, alike, trivial, fun _ _ => trivial⟩

theorem updateCall_refines_alike (nests : Calls.Nests outer inner)
    (update : Context → Except RuntimeError Context) :
    (updateCall update).Refines (.ofAlike inner outputs) (fun _ => True) (updateCall update) := by
  refine bind_refines (currentCall_refines_alike nests.innermost) fun context _ => ?_
  have changed : (liftM (update context) : Action Context).Refines
      (.ofAlike inner outputs) (fun _ => True) (liftM (update context)) :=
    lift_refines fun _ _ => trivial
  refine bind_refines changed fun updated _ => ?_
  intro machine other alike result after finished
  cases finished
  exact ⟨_, rfl, alike.withCall nests updated, trivial, fun _ _ => trivial⟩

end Action

namespace Coupling

theorem AllowsReading.of_view {coupling : Coupling}
    (view : ∀ machine other, coupling.linked machine other →
      machine.calls.head?.map Context.value? = other.calls.head?.map Context.value?) :
    coupling.AllowsReading Discipline.free.good := by
  rintro name ⟨calls, output⟩ ⟨others, otherOutput⟩ linked result after finished
  have same := view _ _ linked
  cases calls with
  | nil =>
      cases List.head?_eq_none_iff.mp (Option.map_eq_none_iff.mp same.symm)
      cases finished
      exact ⟨_, rfl, linked, coupling.refl _, fun _ _ => trivial⟩
  | cons context outer =>
      cases others with
      | nil => cases same
      | cons otherContext otherOuter =>
          have value? := congrFun (Option.some.inj same) name
          simp only [Action.read, Action.currentCall, bind, value?] at finished ⊢
          generalize otherContext.value? name = visible at finished ⊢
          cases visible <;> cases finished <;>
            exact ⟨_, rfl, linked, coupling.refl _, fun _ _ => trivial⟩

open Calls

theorem ofAlike_allowsStatements (nests : Nests outer inner) :
    (ofAlike inner outputs).AllowsStatements Discipline.free.good :=
  .of_updateCall
    (.of_view fun _ _ alike =>
      congrArg (Option.map Context.value?) (nests.innermost alike.calls))
    (fun update _ => Action.updateCall_refines_alike nests update)
    fun _ _ alike => ⟨alike.closeScope nests, trivial⟩

theorem ofAlike_restsOn {calls : List Context → List Context → Prop}
    (within : ∀ {first second}, calls first second → outer first second) :
    (ofAlike calls outputs).RestsOn outer outputs where
  alike alike := ⟨within alike.calls, alike.output⟩
  linked alike kept otherKept still := by
    refine ⟨?_, still⟩
    rw [kept.calls, otherKept.calls]
    exact alike.calls
  moves _ := trivial

theorem RestsOn.refines {coupling : Coupling} (rests : coupling.RestsOn outer outputs) {α : Type}
    {good : α → Prop} {first second : Action α}
    (refines : first.Refines (.ofAlike outer outputs) good second)
    (kept : first.Keeps Machine.SameCalls) (otherKept : second.Keeps Machine.SameCalls) :
    first.Refines coupling good second := by
  intro machine other linked result after finished
  rcases refines machine other (rests.alike linked) result after finished with
    ⟨otherAfter, otherFinished, alike, _, isGood⟩
  have same := kept machine result after finished
  have otherSame := otherKept other result otherAfter otherFinished
  exact ⟨otherAfter, otherFinished, rests.linked linked same otherSame alike.output,
    rests.moves same, isGood⟩

theorem RestsOn.carriesCalls {coupling : Coupling} (rests : coupling.RestsOn outer outputs)
    (program : Program) (rates : Rates) :
    (ofAlike outer outputs).CarriesCalls coupling program rates := by
  intro callee arguments steps more good refines
  have kept := Setting.ofProgram_keeps_calls program rates
  exact rests.refines refines (kept steps callee arguments) (kept more callee arguments)

theorem ofAlike_allowsEntering (nests : Nests outer inner) :
    (ofAlike outer outputs).AllowsEntering (ofAlike inner outputs) Discipline.free.good where
  enter _ _ scope _ alike := ⟨nests.enter (.ofScope scope) alike.calls, alike.output⟩
  leave _ _ alike := ⟨nests.leave alike.calls, alike.output⟩
  moved _ _ _ _ := trivial

/-- Functions see nothing of the calls but their number, and to the same output they write the
same, whatever device takes it. -/
theorem sameNumber_sameOutput_allowsCalls (program : Program) (rates : Rates) :
    (ofAlike SameNumber Eq).AllowsCalls (ofAlike SameInnermost Eq) Discipline.free.good program
      rates where
  toAllowsEntering := ofAlike_allowsEntering sameNumber_nests
  carried := (ofAlike_restsOn sameNumber_nests.within).carriesCalls program rates
  statements := ofAlike_allowsStatements sameNumber_nests
  depth _ _ alike := alike.calls
  writeLine _ := Action.onOutput_refines_alike fun _ _ same => same ▸ ⟨rfl, rfl⟩
  flush := Action.onOutput_refines_alike fun _ _ same => same ▸ ⟨rfl, rfl⟩

end Coupling

end

end Ducat

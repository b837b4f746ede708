import Ducat.Proofs.Evaluation.Moment.Assigning
import Ducat.Proofs.Evaluation.Moment.Failing

/-! How variables come to be: by declarations, and as the parameters of functions. At first each of
them has a value of its type. -/

namespace Ducat

namespace Definition

variable {pairs : List (Parameter × Value)} {scope bound : Scope}

theorem getElem?_bindAll_of_not_mem {name : String} (found : bindAll scope pairs = .ok bound)
    (isOther : name ∉ pairs.map fun pair => pair.1.name) : bound[name]? = scope[name]? := by
  induction pairs generalizing scope with
  | nil =>
      cases found
      rfl
  | cons pair rest induction =>
      rw [List.map_cons, List.mem_cons, not_or] at isOther
      have different : compare pair.1.name name ≠ .eq := fun equal =>
        isOther.1 (Std.LawfulEqCmp.eq_of_compare equal).symm
      rw [induction (bindAll_cons_eq_ok found).2 isOther.2, Std.ExtTreeMap.getElem?_insert,
        if_neg different]

/-- Each parameter is bound to the argument in its position. -/
theorem getElem?_bindAll {parameter : Parameter} {value : Value}
    (found : bindAll scope pairs = .ok bound)
    (distinct : (pairs.map fun pair => pair.1.name).Nodup) (member : (parameter, value) ∈ pairs) :
    bound[parameter.name]? = some value ∧ parameter.check value = .ok () := by
  induction pairs generalizing scope with
  | nil => cases member
  | cons pair rest induction =>
      rw [List.map_cons, List.nodup_cons] at distinct
      rcases bindAll_cons_eq_ok found with ⟨accepted, restFound⟩
      cases member with
      | head =>
          refine ⟨?_, accepted⟩
          rw [getElem?_bindAll_of_not_mem restFound distinct.1]
          exact Std.ExtTreeMap.getElem?_insert_self
      | tail _ member => exact induction restFound distinct.2 member

theorem getElem?_bind {definition : Definition} {arguments : List Value} {parameter : Parameter}
    (complete : definition.parameters.length = arguments.length)
    (bound : definition.bind arguments = .ok scope)
    (distinct : (definition.parameters.map Parameter.name).Nodup)
    (member : parameter ∈ definition.parameters) :
    ∃ value, scope[parameter.name]? = some value ∧ parameter.check value = .ok () := by
  rw [← List.map_fst_zip (Nat.le_of_eq complete)] at distinct member
  rw [List.map_map] at distinct
  rcases List.mem_map.mp member with ⟨⟨_, value⟩, inside, rfl⟩
  exact ⟨value, getElem?_bindAll bound distinct inside⟩

end Definition

namespace Statement

theorem not_opensScope_of_chosen {statement next : Statement} {value : Value}
    (isNext : statement.chosen? value = some next) (plain : ¬ next.OpensScope) :
    ¬ statement.OpensScope := by
  cases statement with
  | loop condition body =>
      simp only [chosen?] at isNext
      split at isNext <;> cases isNext
      exact absurd trivial plain
  | block => cases isNext
  | assign | declare | leave | branch | choice | call => exact not_false

section

variable {program : Program} {rates : Rates} {steps : Nat} {machine between after : Machine}

open Ducat.Action

theorem gives_of_chosen {statement next : Statement} {expression : Expression} {value : Value}
    {flow : Flow} (begins : statement.expression? = some expression)
    (evaluated : expression.evaluate (.ofProgram program rates steps) machine =
      .finished (.ok value) between)
    (isNext : statement.chosen? value = some next) (plain : ¬ next.OpensScope)
    (gives : Gives (fun steps => next.execute (.ofProgram program rates steps) steps) between flow
      after) :
    Gives (fun steps => statement.execute (.ofProgram program rates steps) steps) machine flow
      after := by
  rcases gives with ⟨least, finished⟩
  refine ⟨max least steps, fun more le => ?_⟩
  rcases Nat.max_le.mp le with ⟨enough, further⟩
  have evaluated := Expression.evaluate_of_le further evaluated
  have inSameScope := not_opensScope_of_chosen isNext plain
  exact (execute_of_chosen begins evaluated isNext inSameScope more).trans (finished more enough)

end

inductive Declares (program : Program) (rates : Rates) (type : ValueType) :
    Statement → Machine → Place → Machine → Prop where
  | declaration {name : String} {expression : Expression} {machine after : Machine}
      {context : Context} {outer : List Context} {steps : Nat}
      (executed : (declare type name expression).execute (.ofProgram program rates steps) steps
        machine = .finished (.ok .proceed) after)
      (active : after.calls = context :: outer) :
      Declares program rates type (.declare type name expression) machine
        ⟨outer.length, context.depth - 1, name⟩ after
  | chosen {statement next : Statement} {expression : Expression}
      {machine between after : Machine} {value : Value} {place : Place} {steps : Nat}
      (begins : statement.expression? = some expression)
      (evaluated : expression.evaluate (.ofProgram program rates steps) machine =
        .finished (.ok value) between)
      (isNext : statement.chosen? value = some next)
      (declares : Declares program rates type next between place after) :
      Declares program rates type statement machine place after

namespace Declares

variable {program : Program} {rates : Rates} {type : ValueType} {statement : Statement}
variable {machine after : Machine} {place : Place}

theorem not_opensScope (declares : statement.Declares program rates type machine place after) :
    ¬ statement.OpensScope := by
  induction declares with
  | declaration => exact not_false
  | chosen _ _ isNext _ induction => exact not_opensScope_of_chosen isNext induction

theorem gives (declares : statement.Declares program rates type machine place after) :
    Action.Gives (fun steps => statement.execute (.ofProgram program rates steps) steps) machine
      .proceed after := by
  induction declares with
  | declaration executed => exact gives_of_finished executed
  | chosen begins evaluated isNext declares induction =>
      exact gives_of_chosen begins evaluated isNext declares.not_opensScope induction

theorem valueAt? (declares : statement.Declares program rates type machine place after) :
    ∃ value, after.valueAt? place = some value ∧ type.accepts value := by
  induction declares with
  | declaration executed stillActive =>
      rcases exists_of_declare executed with
        ⟨value, between, context, outer, changed, _, accepted, active, defined, rfl⟩
      rw [Machine.withCall, active, List.tail_cons] at stillActive
      cases stillActive
      refine ⟨value, ?_, accepted⟩
      rw [Machine.valueAt?_withCall active, if_pos rfl, Context.valueAt?_of_define defined]
  | chosen _ _ _ _ induction => exact induction

end Declares

end Statement

namespace Moment

/-- Between the two moments a variable of the type comes to be in the place. The moments to which
the second one leads are those at which its scope is still open. -/
inductive Introduces (program : Program) (rates : Rates) (type : ValueType) :
    Moment → Place → Moment → Prop where
  | declaration {first : Statement} {rest : List Statement} {machine after : Machine}
      {place : Place} (declares : first.Declares program rates type machine place after) :
      Introduces program rates type ⟨.executions (first :: rest), machine⟩ place
        ⟨.executions rest, after⟩
  | parameter {definition : Definition} {arguments : List Value} {scope : Scope}
      {machine : Machine} {parameter : Parameter}
      (complete : definition.parameters.length = arguments.length)
      (shallow : machine.calls.length < maximumCallDepth)
      (bound : definition.bind arguments = .ok scope)
      (member : parameter ∈ definition.parameters) (declared : parameter.type = some type) :
      Introduces program rates type ⟨.application (.defined definition) arguments, machine⟩
        ⟨machine.calls.length, 0, parameter.name⟩
        ⟨.execution (.block definition.body), machine.enterCall (.ofScope scope)⟩

variable {program : Program} {rates : Rates} {type : ValueType} {place : Place}
variable {first second : Moment}

theorem Introduces.leadsTo (introduces : first.Introduces program rates type place second) :
    first.LeadsTo program rates second := by
  cases introduces with
  | declaration declares =>
      rcases declares.gives with ⟨steps, executed⟩
      exact .furtherStatements (executed steps (Nat.le_refl steps))
  | parameter complete shallow bound => exact .body complete shallow bound

theorem OfRun.exists_definition? {entry : String} {start machine : Machine}
    {definition : Definition} {arguments : List Value}
    (reached : OfRun program rates entry start
      ⟨.application (.defined definition) arguments, machine⟩) :
    ∃ name, program.definition? name = some definition := by
  rcases reached with ⟨first, isEntry, reached⟩
  cases reached with
  | refl => exact ⟨entry, isEntry⟩
  | tail _ leads =>
      cases leads with
      | application _ found => exact ⟨_, Callee.definition?_of_find found⟩

theorem exists_executions_behind {after : Machine} {statement : Statement} {machine : Machine}
    (isOutside : ∀ statement, first.activity = .execution statement → statement.OpensScope)
    (reached : Relation.ReflTransGen (LeadsTo program rates) first
      ⟨.execution statement, machine⟩)
    (plain : ¬ statement.OpensScope)
    (gives : Action.Gives
      (fun steps => statement.execute (.ofProgram program rates steps) steps) machine .proceed
      after) :
    ∃ rest, Relation.ReflTransGen (LeadsTo program rates) first ⟨.executions rest, after⟩ := by
  generalize reachedMoment : (⟨.execution statement, machine⟩ : Moment) = moment at reached
  -- Behind a statement of a block there are the others, unless it is in a block of its own. The
  -- induction is on the moments that lead to it.
  induction reached generalizing statement machine with
  | refl =>
      subst reachedMoment
      exact absurd (isOutside _ rfl) plain
  | tail earlier leads induction =>
      subst reachedMoment
      cases leads with
      | chosen begins evaluated isNext =>
          exact induction (Statement.not_opensScope_of_chosen isNext plain)
            (Statement.gives_of_chosen begins evaluated isNext plain gives) rfl
      | firstStatement =>
          rcases gives with ⟨steps, executed⟩
          exact ⟨_, earlier.tail (.furtherStatements (executed steps (Nat.le_refl steps)))⟩
      | body | repetition => exact absurd trivial plain

theorem Assigns.exists_gives {moment : Moment} {value : Value}
    (assigns : moment.Assigns program rates place value) :
    ∃ statement after, moment.activity = .execution statement ∧ ¬ statement.OpensScope ∧
      Action.Gives (fun steps => statement.execute (.ofProgram program rates steps) steps)
        moment.machine .proceed after ∧ after.valueAt? place = some value := by
  cases assigns with
  | @assign name expression machine between _ _ steps evaluated nearest =>
      rw [← Machine.nearest?_of_sameCalls (Expression.sameCalls_of_evaluate evaluated)] at nearest
      rcases Machine.exists_assign nearest value with ⟨after, assigned, valueAt⟩
      have executed : (Statement.assign name expression).execute (.ofProgram program rates steps)
          steps machine = .finished (.ok .proceed) after := by
        rw [Statement.execute, Action.bind_of_ok evaluated, Action.bind_of_ok assigned]
        rfl
      exact ⟨_, after, rfl, not_false, Statement.gives_of_finished executed, valueAt⟩

end Moment

end Ducat

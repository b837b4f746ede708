import Mathlib
import Ducat.Proofs.Evaluation.Goodness

/-! Main statement: programs that differ only in statements behind one that leaves the function, in
the same block, do the same. -/

namespace Ducat

mutual

inductive Statement.SameLive : Statement → Statement → Prop where
  | same (statement : Statement) : SameLive statement statement
  | branch {condition : Expression} {consequence other : Statement}
      (live : SameLive consequence other) :
      SameLive (.branch condition consequence) (.branch condition other)
  | choice {condition : Expression} {consequence alternative other otherAlternative : Statement}
      (live : SameLive consequence other)
      (alternativeLive : SameLive alternative otherAlternative) :
      SameLive (.choice condition consequence alternative)
        (.choice condition other otherAlternative)
  | loop {condition : Expression} {body other : List Statement}
      (live : Statement.AllSameLive body other) :
      SameLive (.loop condition body) (.loop condition other)
  | block {statements others : List Statement} (live : Statement.AllSameLive statements others) :
      SameLive (.block statements) (.block others)

/-- Anything may stand behind a statement that leaves the function. -/
inductive Statement.AllSameLive : List Statement → List Statement → Prop where
  | nil : AllSameLive [] []
  | cons {first other : Statement} {rest others : List Statement}
      (live : Statement.SameLive first other) (restLive : AllSameLive rest others) :
      AllSameLive (first :: rest) (other :: others)
  | dead {value : Option Expression} {rest others : List Statement} :
      AllSameLive (.leave value :: rest) (.leave value :: others)

end

namespace Statement

variable {setting : Setting} {steps : Nat}

theorem executeAll_leave (value : Option Expression) (rest : List Statement) :
    executeAll setting steps (.leave value :: rest) = execute setting steps (.leave value) := by
  rw [executeAll]
  cases value with
  | none => rfl
  | some value =>
      funext machine
      rw [execute]
      cases evaluated : value.evaluate setting machine with
      | exhausted => simp only [bind, evaluated]
      | finished result after =>
          cases result with
          | error error => simp only [bind, evaluated]
          | ok result =>
              simp only [bind, evaluated]
              rfl

mutual

theorem SameLive.execute_eq : ∀ {first second : Statement}, first.SameLive second →
    first.execute setting steps = second.execute setting steps
  | _, _, .same _ => rfl
  | _, _, .branch live => by
      rw [execute, execute, live.execute_eq]
  | _, _, .choice live alternativeLive => by
      rw [execute, execute, live.execute_eq, alternativeLive.execute_eq]
  | _, _, .loop live => by
      rw [execute, execute, live.executeAll_eq]
  | _, _, .block live => by
      rw [execute, execute, live.executeAll_eq]

theorem AllSameLive.executeAll_eq : ∀ {first second : List Statement},
    AllSameLive first second → executeAll setting steps first = executeAll setting steps second
  | _, _, .nil => rfl
  | _, _, .cons live restLive => by
      rw [executeAll, executeAll, live.execute_eq, restLive.executeAll_eq]
  | _, _, .dead => by
      rw [executeAll_leave, executeAll_leave]

end

end Statement

structure Definition.SameLive (definition other : Definition) : Prop where
  returnType : other.returnType = definition.returnType
  name : other.name = definition.name
  parameters : other.parameters = definition.parameters
  body : Statement.AllSameLive definition.body other.body

/-- There are functions of the same names, with the same heads and bodies that do the same. -/
def Program.SameLive (first second : Program) : Prop :=
  ∀ name, Option.Rel Definition.SameLive (first.definition? name) (second.definition? name)

namespace Action

variable {α : Type}

theorem eq_of_finished {first second : Action α}
    (forth : ∀ machine result after, first machine = .finished result after →
      second machine = .finished result after)
    (back : ∀ machine result after, second machine = .finished result after →
      first machine = .finished result after) : first = second := by
  funext machine
  cases ran : first machine with
  | finished result after => exact (forth machine result after ran).symm
  | exhausted =>
      cases otherRan : second machine with
      | exhausted => rfl
      | finished result after =>
          cases ran.symm.trans (back machine result after otherRan)

theorem refines_of_free (action : Action α) {goodResult : α → Prop}
    (isGood : ∀ value, goodResult value) :
    action.Refines (.ofGood Discipline.free.good) goodResult action := by
  refine refines_of_allGood fun before result after _ _ => ⟨?_, fun value _ => isGood value⟩
  exact fun _ _ => Context.allGood_of_forall (fun _ => trivial) _

end Action

section

variable {setting other : Setting}

/-- Code sees no more of a setting than its rates and what calls do. -/
theorem Setting.refines_of_call_eq (rates : other.rates = setting.rates)
    (called : ∀ function count arguments,
      setting.call function count arguments = other.call function count arguments) :
    setting.Refines (.ofGood Discipline.free.good) Discipline.free.good other where
  rates := rates
  call function count {arguments others} refines := by
    rw [← called, Setting.call, Setting.call]
    have found : (liftM (Callee.find setting.program function count) : Action Callee).Refines
        (.ofGood Discipline.free.good) (fun _ => True)
        (liftM (Callee.find setting.program function count)) :=
      Action.refines_of_free _ fun _ => trivial
    refine Action.bind_refines found fun callee _ => ?_
    refine Action.bind_refines refines fun values _ => ?_
    exact Action.refines_of_free _ fun _ _ _ => trivial

theorem Statement.execute_eq_of_call_eq (rates : other.rates = setting.rates)
    (called : ∀ function count arguments,
      setting.call function count arguments = other.call function count arguments)
    (steps : Nat) (statement : Statement) :
    statement.execute setting steps = statement.execute other steps := by
  have forth := statement.execute_refines (Setting.refines_of_call_eq rates called)
    Coupling.ofGood_allowsStatements (Nat.le_refl steps) trivial
  have back := statement.execute_refines
    (Setting.refines_of_call_eq rates.symm fun function count arguments =>
      (called function count arguments).symm)
    Coupling.ofGood_allowsStatements (Nat.le_refl steps) trivial
  exact Action.eq_of_finished (fun _ _ _ => forth.finished_of_finished)
    fun _ _ _ => back.finished_of_finished

end

inductive Callee.SameLive : Callee → Callee → Prop where
  | defined {definition other : Definition} (live : definition.SameLive other) :
      SameLive (.defined definition) (.defined other)
  | builtin (builtin : Builtin) : SameLive (.builtin builtin) (.builtin builtin)

section

variable {first second : Program} {rates : Rates} {steps : Nat}

theorem Callee.find_sameLive (same : first.SameLive second) (function : String) (count : Nat) :
    (∃ error, find first function count = .error error ∧
      find second function count = .error error) ∨
    ∃ callee other, find first function count = .ok callee ∧
      find second function count = .ok other ∧ callee.SameLive other := by
  have found := same function
  unfold find
  generalize first.definition? function = definition? at found
  generalize second.definition? function = other? at found
  cases found with
  | none =>
      cases Builtin.ofName? function with
      | none => exact .inl ⟨_, rfl, rfl⟩
      | some builtin =>
          dsimp only
          cases counted : checkArgumentCount builtin.name builtin.arity count with
          | error error => exact .inl ⟨error, rfl, rfl⟩
          | ok _ => exact .inr ⟨_, _, rfl, rfl, .builtin builtin⟩
  | @some definition other live =>
      simp only [live.name, live.parameters]
      cases counted : checkArgumentCount definition.name definition.parameters.length count with
      | error error => exact .inl ⟨error, rfl, rfl⟩
      | ok _ => exact .inr ⟨_, _, rfl, rfl, .defined live⟩

theorem Setting.call_eq_of_apply_eq (same : first.SameLive second)
    (applied : ∀ {callee other : Callee}, callee.SameLive other → ∀ arguments,
      (ofProgram first rates steps).apply callee arguments =
        (ofProgram second rates steps).apply other arguments)
    (function : String) (count : Nat) (arguments : Action (List Value)) :
    (ofProgram first rates steps).call function count arguments =
      (ofProgram second rates steps).call function count arguments := by
  change liftM (Callee.find first function count) >>= _ =
    liftM (Callee.find second function count) >>= _
  rcases Callee.find_sameLive same function count with
    ⟨error, found, otherFound⟩ | ⟨callee, other, found, otherFound, live⟩
  · rw [found, otherFound]
    rfl
  · rw [found, otherFound]
    exact congrArg (arguments >>= ·) (funext (applied live))

theorem Statement.AllSameLive.executeBlock_eq {statements others : List Statement}
    (live : AllSameLive statements others)
    (called : ∀ function count arguments,
      (Setting.ofProgram first rates steps).call function count arguments =
        (Setting.ofProgram second rates steps).call function count arguments) :
    executeBlock (.ofProgram first rates steps) steps statements =
      executeBlock (.ofProgram second rates steps) steps others := by
  have sameRates : (Setting.ofProgram second rates steps).rates =
      (Setting.ofProgram first rates steps).rates := rfl
  have executed := execute_eq_of_call_eq sameRates called steps (.block others)
  rw [execute, execute] at executed
  rw [executeBlock, live.executeAll_eq]
  exact executed

theorem Setting.apply_eq (same : first.SameLive second) (rates : Rates) (steps : Nat)
    {callee other : Callee} (live : callee.SameLive other) (arguments : List Value) :
    (ofProgram first rates steps).apply callee arguments =
      (ofProgram second rates steps).apply other arguments := by
  -- The induction is on the steps: the calls in a body are allowed one step less.
  induction steps generalizing callee other arguments with
  | zero => cases live <;> rfl
  | succ steps induction =>
      cases live with
      | builtin => rfl
      | @defined definition other live =>
          have called := call_eq_of_apply_eq same fun live arguments => induction live arguments
          have executed := live.body.executeBlock_eq called
          rcases definition with ⟨returnType, name, parameters, body⟩
          rcases other with ⟨_, _, _, otherBody⟩
          rcases live with ⟨rfl, rfl, rfl, _⟩
          change Definition.invoke first rates (steps + 1) _ arguments =
            Definition.invoke second rates (steps + 1) _ arguments
          rw [Definition.invoke_succ, Definition.invoke_succ, executed]
          rfl

/-- Programs that differ only behind statements that leave the function do the same, from whatever
function they begin. -/
theorem code_behind_leave_is_dead (same : first.SameLive second) (rates : Rates) (steps : Nat)
    (entry : String) :
    (Setting.ofProgram first rates steps).enter entry =
      (Setting.ofProgram second rates steps).enter entry := by
  have found := same entry
  simp only [Setting.enter, Setting.ofProgram]
  generalize first.definition? entry = definition? at found
  generalize second.definition? entry = other? at found
  cases found with
  | none => rfl
  | @some definition other live =>
      have applied := Setting.apply_eq same rates steps (.defined live) []
      simp only [Setting.apply, Setting.ofProgram] at applied
      simp only [applied, live.returnType]

end

theorem Program.SameLive.insert {first second : Program} (same : first.SameLive second)
    {definition other : Definition} (live : definition.SameLive other) :
    (first.insert definition).SameLive (second.insert other) := by
  intro name
  by_cases named : definition.name = name
  · subst named
    rw [definition?_insert_self, ← live.name, definition?_insert_self]
    exact .some live
  · have otherNamed : other.name ≠ name := live.name ▸ named
    rw [definition?_insert_of_ne _ _ named, definition?_insert_of_ne _ _ otherNamed]
    exact same name

def answerBody (dead : List Statement) : List Statement :=
  [.loop (.literal (.bool true))
    [.call "print" [.literal (.int 7)],
      .branch (.literal (.bool true)) (.block (.leave (some (.literal (.int 1))) :: dead))]]

def answerProgram (dead : List Statement) : Program :=
  Program.empty.insert
    { returnType := .int, name := "main", parameters := [], body := answerBody dead }

theorem answerProgram_sameLive (dead otherDead : List Statement) :
    (answerProgram dead).SameLive (answerProgram otherDead) := by
  have empty : Program.empty.SameLive Program.empty := fun _ => .none
  refine empty.insert ⟨rfl, rfl, rfl, ?_⟩
  exact .cons (.loop (.cons (.same _) (.cons (.branch (.block .dead)) .nil))) .nil

def deadStatements : List Statement :=
  [.loop (.literal (.bool true)) [],
    .leave (some (.arithmetic .divide (.literal (.int 1)) (.literal (.int 0))))]

theorem code_behind_leave_is_dead_of_answer :
    (answerProgram deadStatements).SameLive (answerProgram []) ∧
      (Setting.ofProgram (answerProgram deadStatements) .empty 3).enter "main" (.start .unlimited) =
        .finished (.ok (some (.int 1))) ⟨[], ⟨.unlimited, #[0x37, 0x0A], 1⟩⟩ := by
  have same := answerProgram_sameLive deadStatements []
  refine ⟨same, ?_⟩
  rw [code_behind_leave_is_dead same .empty 3 "main"]
  cbv

end Ducat

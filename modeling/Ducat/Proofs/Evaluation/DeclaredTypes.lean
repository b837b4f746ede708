import Ducat.Proofs.Evaluation.Moment.Introducing
import Ducat.Proofs.Grammar.Accepted
import Ducat.Run

/-! Main statement: variables keep the types with which they were declared exactly if nothing else
is assigned to them. Declarations and calls check the types of values, and assignments do not. -/

namespace Ducat

namespace Moment

variable {program : Program} {rates : Rates} {type : ValueType} {place : Place} {entry : String}
variable {start : Machine} {before introduced : Moment}

/-- A variable is introduced with a value of its type. That of a parameter was the argument in its
position, because no other parameter of the function has its name. -/
theorem Introduces.valueAt? {currencies : List String} {text : String}
    (read : Program.ofText currencies text = .ok program)
    (reached : before.OfRun program rates entry start)
    (introduces : before.Introduces program rates type place introduced) :
    ∃ value, introduced.machine.valueAt? place = some value ∧ type.accepts value := by
  cases introduces with
  | declaration declares => exact declares.valueAt?
  | @parameter definition arguments scope machine parameter complete _ bound member declared =>
      rcases reached.exists_definition? with ⟨name, found⟩
      have distinct := (Program.fits_of_ofText read found).distinct
      rcases Definition.getElem?_bind complete bound distinct member with ⟨value, isBound, check⟩
      refine ⟨value, ?_, ?_⟩
      · rw [Machine.valueAt?, Machine.enterCall, atHeight?_cons_length]
        exact isBound
      · rw [Parameter.check, declared] at check
        exact ValueType.accepts_of_check check

theorem Introduces.opensScope (introduces : before.Introduces program rates type place introduced)
    (statement : Statement) (isExecution : introduced.activity = .execution statement) :
    statement.OpensScope := by
  cases introduces with
  | declaration => cases isExecution
  | parameter =>
      cases isExecution
      trivial

end Moment

namespace Program

variable (program : Program) (rates : Rates) (entry : String) (start : Machine)

/-- From its introduction until its scope is closed, every variable of a run has a value of the type
with which it was introduced. -/
def KeepsDeclaredTypes : Prop :=
  ∀ before introduced place type, Moment.OfRun program rates entry start before →
    before.Introduces program rates type place introduced →
      ∀ later, Relation.ReflTransGen (Moment.LeadsTo program rates) introduced later →
        ∃ value, later.machine.valueAt? place = some value ∧ type.accepts value

/-- Whatever is assigned to a variable has the type with which that was introduced. -/
def AssignsDeclaredTypes : Prop :=
  ∀ before introduced place type, Moment.OfRun program rates entry start before →
    before.Introduces program rates type place introduced →
      ∀ assignment value, Relation.ReflTransGen (Moment.LeadsTo program rates) introduced
        assignment → assignment.Assigns program rates place value → type.accepts value

variable {program rates entry start}

/-- Behind an assignment there is a further moment, at which the variable has the value. -/
theorem KeepsDeclaredTypes.assigns (keeps : program.KeepsDeclaredTypes rates entry start) :
    program.AssignsDeclaredTypes rates entry start := by
  intro before introduced place type reached introduces assignment value leads assigns
  rcases assigns.exists_gives with ⟨statement, after, isExecution, plain, gives, valueAt⟩
  rcases assignment with ⟨activity, machine⟩
  cases isExecution
  rcases Moment.exists_executions_behind introduces.opensScope leads plain gives with
    ⟨rest, behind⟩
  rcases keeps before introduced place type reached introduces _ behind with
    ⟨found, foundAt, accepted⟩
  cases valueAt.symm.trans foundAt
  exact accepted

/-- The variables of a program that was read from a text keep the types with which they were
declared exactly if all that is assigned to them has these types. -/
theorem keeps_declared_types_iff {currencies : List String} {text : String}
    (read : ofText currencies text = .ok program) (rates : Rates) (entry : String)
    (start : Machine) :
    program.KeepsDeclaredTypes rates entry start ↔
      program.AssignsDeclaredTypes rates entry start := by
  refine ⟨KeepsDeclaredTypes.assigns, ?_⟩
  intro assigns before introduced place type reached introduces later leads
  rcases introduces.valueAt? read reached with ⟨value, valueAt, accepted⟩
  rcases Moment.explains_of_leadsTo leads place value valueAt with
    ⟨last, lastAt, rfl | ⟨assignment, between, assigned⟩⟩
  · exact ⟨_, lastAt, accepted⟩
  · exact ⟨last, lastAt, assigns before introduced place type reached introduces assignment last
      between assigned⟩

def looseText : String := "int main() \x7b int x = 1; x = \"a\"; print(typeof(x)); return 0; \x7d"

def looseAssignment : Statement := .assign "x" (.literal (.string "a"))

def looseStatements : List Statement :=
  [looseAssignment, .call "print" [.call "typeof" [.reference "x"]],
    .leave (some (.literal (.int 0)))]

def looseDefinition : Definition where
  returnType := .int
  name := "main"
  parameters := []
  body := .declare .int "x" (.literal (.int 1)) :: looseStatements

def looseMachine (scope : Scope) : Machine := ⟨[⟨[scope, ∅]⟩], .start .unlimited⟩

def declaredScope : Scope := (∅ : Scope).insert "x" (.int 1)

theorem exists_program_of_looseText :
    ∃ program, ofText [] looseText = .ok program ∧
      program.definition? "main" = some looseDefinition := by
  have found : (ofText [] looseText).toOption.bind (fun program => program.definition? "main") =
      some looseDefinition := by
    cbv
  cases read : ofText [] looseText with
  | error failure =>
      rw [read] at found
      cases found
  | ok program =>
      rw [read] at found
      exact ⟨program, rfl, found⟩

theorem keeps_declared_types_iff_of_looseText :
    ∃ program, ofText [] looseText = .ok program ∧ ∀ rates entry start,
      program.KeepsDeclaredTypes rates entry start ↔
        program.AssignsDeclaredTypes rates entry start := by
  rcases exists_program_of_looseText with ⟨program, read, _⟩
  exact ⟨program, read, keeps_declared_types_iff read⟩

/-- A program that is accepted may assign a value of another type. -/
theorem exists_not_keepsDeclaredTypes :
    ∃ program, ofText [] looseText = .ok program ∧
      ¬ program.KeepsDeclaredTypes .empty "main" (.start .unlimited) := by
  rcases exists_program_of_looseText with ⟨program, read, found⟩
  refine ⟨program, read, fun keeps => ?_⟩
  have reached : Moment.OfRun program .empty "main" (.start .unlimited)
      ⟨.executions looseDefinition.body, looseMachine ∅⟩ := by
    refine ⟨looseDefinition, found, ?_⟩
    exact .tail (.single (.body rfl (by decide) rfl)) (.block rfl)
  have executed : (Statement.declare .int "x" (.literal (.int 1))).execute
      (.ofProgram program .empty 0) 0 (looseMachine ∅) =
        .finished (.ok .proceed) (looseMachine declaredScope) := rfl
  have introduces : Moment.Introduces program .empty .int
      ⟨.executions looseDefinition.body, looseMachine ∅⟩ ⟨0, 1, "x"⟩
      ⟨.executions looseStatements, looseMachine declaredScope⟩ :=
    .declaration (.declaration executed rfl)
  have assigned : (Expression.literal (.string "a")).evaluate (.ofProgram program .empty 0)
      (looseMachine declaredScope) =
        .finished (.ok (.string "a")) (looseMachine declaredScope) := rfl
  have assigns : Moment.Assigns program .empty
      ⟨.execution looseAssignment, looseMachine declaredScope⟩
      ⟨0, 1, "x"⟩ (.string "a") := .assign assigned rfl
  have accepted := keeps.assigns _ _ _ _ reached introduces _ _ (.single .firstStatement) assigns
  cases accepted

end Program

end Ducat

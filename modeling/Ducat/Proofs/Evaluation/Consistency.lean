import Ducat.Proofs.Evaluation.Faultless
import Ducat.Proofs.Evaluation.Fitting
import Ducat.Proofs.Evaluation.Moment.Allowed
import Ducat.Proofs.Evaluation.Moment.Raising
import Ducat.Proofs.Evaluation.Moment.Readiness

/-! Main statement: a program that was read from a text never fails for want of an active call, and
never because a number or money is cast to a currency that has no name. -/

namespace Ducat

namespace Action

variable {machine after : Machine} {error : RuntimeError}

theorem not_isFault_of_updateCall (ready : machine.IsReady)
    {update : Context → Except RuntimeError Context}
    (faultless : ∀ context : Context, context.scopes ≠ [] → Faultless (update context))
    (failed : updateCall update machine = .finished (.error error) after) :
    ¬ error.IsFault := by
  rcases ready with ⟨context, outer, active, opened⟩
  cases updated : update context with
  | error other =>
      rw [updateCall_of_error active updated] at failed
      cases failed
      exact faultless context opened _ updated
  | ok changed =>
      rw [updateCall_of_ok active updated] at failed
      cases failed

theorem not_isFault_of_read (ready : machine.IsReady) {name : String}
    (failed : read name machine = .finished (.error error) after) : ¬ error.IsFault := by
  rcases ready with ⟨context, outer, active, _⟩
  have current : currentCall machine = .finished (.ok context) machine := by
    simp only [currentCall, active]
  rw [read, bind_of_ok current] at failed
  cases found : context.value? name <;> rw [found] at failed <;> cases failed
  intro fault
  cases fault

theorem not_isFault_of_onOutput {effect : Output → Option String × Output}
    (failed : onOutput effect machine = .finished (.error error) after) : ¬ error.IsFault := by
  unfold onOutput at failed
  split at failed <;> cases failed
  nofun

end Action

namespace Builtin

variable {machine after : Machine} {error : RuntimeError}

theorem not_isFault_of_writeLines {values : List Value}
    (failed : writeLines values machine = .finished (.error error) after) : ¬ error.IsFault := by
  induction values generalizing machine with
  | nil => cases failed
  | cons value rest induction =>
      rcases Action.error_of_bind failed with failed | ⟨_, _, _, failed⟩
      · exact Action.not_isFault_of_onOutput failed
      · exact induction failed

theorem not_isFault_of_run {builtin : Builtin} {arguments : List Value}
    (failed : builtin.run arguments machine = .finished (.error error) after) :
    ¬ error.IsFault := by
  cases builtin with
  | print =>
      rcases Action.error_of_bind failed with failed | ⟨_, _, _, failed⟩
      · exact not_isFault_of_writeLines failed
      rcases Action.error_of_bind failed with failed | ⟨_, _, _, failed⟩
      · exact Action.not_isFault_of_onOutput failed
      · cases failed
  | typeOf => cases failed

end Builtin

namespace Expression

variable {expression : Expression}

theorem resultOfFirst_faultless {level : Level} (fits : expression.Fits level) (rates : Rates)
    (value : Value) : Faultless (expression.resultOfFirst rates value) := by
  cases expression with
  | negation => exact value.negate_faultless
  | cast operand target =>
      refine value.cast_faultless (fun nameless => ?_) rates
      subst nameless
      cases fits.target
  | logical | not => exact value.truth_faultless.map _
  | literal | reference | call | bracketed | arithmetic | comparison => exact .ok value

theorem resultOfBoth_faultless (expression : Expression) (left right : Value) :
    Faultless (expression.resultOfBoth left right) := by
  cases expression with
  | arithmetic operator => exact operator.apply_faultless left right
  | comparison operator => exact (operator.apply_faultless left right).map _
  | _ => exact right.truth_faultless.map _

end Expression

theorem Statement.not_isFault_of_effect {statement : Statement} {value : Value}
    {machine after : Machine} {error : RuntimeError} (ready : machine.IsReady)
    (failed : statement.effect value machine = .finished (.error error) after) :
    ¬ error.IsFault := by
  cases statement with
  | assign name =>
      exact Action.not_isFault_of_updateCall ready
        (fun context _ => context.assign_faultless name value) failed
  | declare type name =>
      cases checked : type.check value with
      | error other =>
          rw [effect, checked] at failed
          cases failed
          exact type.check_faultless value _ checked
      | ok =>
          rw [effect, checked] at failed
          exact Action.not_isFault_of_updateCall ready
            (fun _ opened => Context.define_faultless opened name value) failed
  | branch | choice | loop =>
      rcases Action.error_of_bind failed with failed | ⟨_, _, _, failed⟩
      · exact value.truth_faultless error (Action.error_of_lift failed)
      · cases failed
  | leave | call | block => cases failed

namespace Moment

variable {program : Program} {rates : Rates}

theorem Raises.not_isFault {moment : Moment} {error : RuntimeError}
    (raises : moment.Raises program rates error) (ready : moment.IsReady)
    (allowed : Discipline.fitting.AllowsActivity moment.activity) : ¬ error.IsFault := by
  cases raises with
  | reference failed => exact Action.not_isFault_of_read (ready trivial) failed
  | firstOperand _ _ _ refused => exact Expression.resultOfFirst_faultless allowed _ _ _ refused
  | bothOperands _ _ _ _ refused => exact Expression.resultOfBoth_faultless _ _ _ _ refused
  | lookup _ unknown => exact Callee.find_faultless _ _ _ _ unknown
  | missingValue | argumentCount | depth => nofun
  | builtin failed => exact Builtin.not_isFault_of_run failed
  | binding refused => exact Definition.bind_faultless _ _ _ refused
  | result _ _ refused => exact Definition.checkReturn_faultless _ _ _ refused
  | effect _ evaluated failed =>
      have kept := Setting.ofProgram_keeps_calls program rates
      have same := Expression.evaluate_keeps (kept _) _ _ _ _ evaluated
      exact Statement.not_isFault_of_effect ((ready trivial).of_sameCalls same) failed
  | idle idle =>
      rcases ready trivial with ⟨context, outer, active, _⟩
      rw [idle] at active
      cases active

end Moment

/-- Whatever a run fails with, it is no fault of the evaluation. -/
theorem run_never_fails_with_fault {currencies : List String} {text : String} {program : Program}
    (read : Program.ofText currencies text = .ok program) (rates : Rates) (steps : Nat)
    (entry : String) {start after : Machine} {error : RuntimeError}
    (failed : (Setting.ofProgram program rates steps).enter entry start =
      .finished (.error error) after) :
    error ≠ .noActiveCall ∧
    ∀ (value : Value) currency, value.type.kind ∈ [ValueType.Kind.int, .float, .money] →
      error ≠ .unsupportedCast value.type (.money currency) := by
  have noFault : ¬ error.IsFault := by
    rcases Setting.error_of_enter failed with rfl | ⟨moment, reached, raises⟩
    · nofun
    · have allowed := reached.allowed (Program.allowsProgram_fitting_of_ofText read)
        (fun context _ => Context.allGood_of_forall (fun _ => trivial) context)
      exact raises.not_isFault reached.ready allowed.activity
  constructor
  · rintro rfl
    exact noFault .noActiveCall
  · rintro value currency numeric rfl
    exact noFault (.unsupportedCast numeric)

def changeText : String := "
EUR change(sum) \x7b if (true) \x7b EUR changed = sum as EUR; return changed; \x7d
return 0 as EUR; \x7d
void main() \x7b while (true) \x7b change(5 as PLN); \x7d \x7d"

def Outcome.error? {α : Type} : Outcome α → Option RuntimeError
  | .finished (.error error) _ => some error
  | _ => none

theorem run_never_fails_with_fault_of_change :
    ∃ program error after, Program.ofText ["EUR", "PLN"] changeText = .ok program ∧
      (Setting.ofProgram program .empty 3).enter entryName (.start .unlimited) =
        .finished (.error error) after ∧
      error.message = "Cannot cast from PLN to EUR. Missing currency exchange rate." ∧
      error ≠ .noActiveCall ∧
      ∀ (value : Value) currency, value.type.kind ∈ [ValueType.Kind.int, .float, .money] →
        error ≠ .unsupportedCast value.type (.money currency) := by
  have fails : ((Program.ofText ["EUR", "PLN"] changeText).toOption.bind fun program =>
      ((Setting.ofProgram program .empty 3).enter entryName (.start .unlimited)).error?.map
        RuntimeError.message) =
      some "Cannot cast from PLN to EUR. Missing currency exchange rate." := by
    decide +kernel
  cases read : Program.ofText ["EUR", "PLN"] changeText with
  | error => simp [read, Except.toOption] at fails
  | ok program =>
      cases ran : (Setting.ofProgram program .empty 3).enter entryName (.start .unlimited) with
      | exhausted => simp [read, ran, Except.toOption, Outcome.error?] at fails
      | finished result after =>
          cases result with
          | ok => simp [read, ran, Except.toOption, Outcome.error?] at fails
          | error error =>
              have text : error.message =
                  "Cannot cast from PLN to EUR. Missing currency exchange rate." := by
                simpa [read, ran, Except.toOption, Outcome.error?] using fails
              exact ⟨program, error, after, rfl, ran, text,
                run_never_fails_with_fault read _ _ _ ran⟩

end Ducat

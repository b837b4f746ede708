import Ducat.Proofs.Evaluation.Finishing

/-! Main statement: programs without loops finish. Whatever calls they nest, an activity leads only
to smaller ones, or to the body of a function, inside of which fewer calls are left to be nested. -/

namespace Ducat

namespace Statement

mutual

def isLoopFree : Statement → Bool
  | .assign _ _ | .declare _ _ _ | .leave _ | .call _ _ => true
  | .branch _ consequence => consequence.isLoopFree
  | .choice _ consequence alternative => consequence.isLoopFree && alternative.isLoopFree
  | .loop _ _ => false
  | .block statements => areLoopFree statements

def areLoopFree : List Statement → Bool
  | [] => true
  | first :: rest => first.isLoopFree && areLoopFree rest

end

theorem isLoopFree_of_chosen? {statement next : Statement} {value : Value}
    (free : statement.isLoopFree) (isNext : statement.chosen? value = some next) :
    next.isLoopFree := by
  cases statement with
  | branch condition consequence =>
      simp only [chosen?] at isNext
      split at isNext <;> cases isNext
      exact free
  | choice condition consequence alternative =>
      rw [isLoopFree, Bool.and_eq_true] at free
      simp only [chosen?] at isNext
      split at isNext <;> cases isNext
      · exact free.1
      · exact free.2
  | loop => simp [isLoopFree] at free
  | assign | declare | leave | call | block => cases isNext

end Statement

def Program.IsLoopFree (program : Program) : Prop :=
  ∀ name definition, program.definition? name = some definition →
    Statement.areLoopFree definition.body

namespace Program

theorem isLoopFree_empty : empty.IsLoopFree := by
  intro name definition found
  simp [definition?, empty] at found

theorem IsLoopFree.insert {program : Program} {definition : Definition}
    (free : program.IsLoopFree) (bodyFree : Statement.areLoopFree definition.body) :
    (program.insert definition).IsLoopFree := by
  intro name other found
  by_cases same : definition.name = name
  · rw [← same, definition?_insert_self] at found
    cases found
    exact bodyFree
  · rw [definition?_insert_of_ne program definition same] at found
    exact free name other found

end Program

namespace Activity

def IsLoopFree : Activity → Prop
  | evaluation _ | evaluations _ | application (.builtin _) _ => True
  | application (.defined definition) _ => Statement.areLoopFree definition.body
  | execution statement => statement.isLoopFree
  | executions statements => Statement.areLoopFree statements

noncomputable def size : Activity → Nat
  | evaluation expression => sizeOf expression
  | evaluations expressions => sizeOf expressions
  | application _ _ => 0
  | execution statement => sizeOf statement
  | executions statements => sizeOf statements

end Activity

theorem Expression.sizeOf_firstOperand? {expression first : Expression}
    (isFirst : expression.firstOperand? = some first) : sizeOf first < sizeOf expression := by
  cases expression <;> cases isFirst <;> simp <;> omega

theorem Expression.sizeOf_secondOperand? {expression second : Expression} {value : Value}
    (isSecond : expression.secondOperand? value = some second) :
    sizeOf second < sizeOf expression := by
  cases expression with
  | arithmetic | comparison =>
      cases isSecond
      simp
  | logical operator left right =>
      simp only [secondOperand?] at isSecond
      split at isSecond
      · split at isSecond <;> cases isSecond
        simp
      · cases isSecond
  | literal | reference | call | bracketed | negation | cast | not => cases isSecond

theorem Statement.sizeOf_expression? {statement : Statement} {expression : Expression}
    (begins : statement.expression? = some expression) :
    sizeOf expression < sizeOf statement := by
  cases statement <;> cases begins <;> simp <;> omega

theorem Statement.sizeOf_chosen? {statement next : Statement} {value : Value}
    (isNext : statement.chosen? value = some next) : sizeOf next < sizeOf statement := by
  cases statement with
  | branch | choice =>
      simp only [chosen?] at isNext
      split at isNext <;> cases isNext
      all_goals
        simp only [branch.sizeOf_spec, choice.sizeOf_spec]
        omega
  | loop condition =>
      have positive : 0 < sizeOf condition := by cases condition <;> simp
      simp only [chosen?] at isNext
      split at isNext <;> cases isNext
      simp only [loop.sizeOf_spec, block.sizeOf_spec]
      omega
  | assign | declare | leave | call | block => cases isNext

theorem Activity.sizeOf_call? {activity : Activity} {function : String}
    {arguments : List Expression} (isCall : activity.call? = some (function, arguments)) :
    sizeOf arguments < activity.size := by
  cases activity with
  | evaluation expression =>
      cases expression <;> cases isCall
      simp [size]
  | execution statement =>
      cases statement <;> cases isCall
      simp [size]
  | evaluations | application | executions => cases isCall

namespace Moment

variable {program : Program} {rates : Rates} {first second : Moment}

theorem LeadsTo.isLoopFree (leads : first.LeadsTo program rates second)
    (programFree : program.IsLoopFree) (free : first.activity.IsLoopFree) :
    second.activity.IsLoopFree := by
  cases leads with
  | firstOperand | secondOperand | firstArgument | furtherArguments | arguments | expression =>
      trivial
  | @application _ function _ callee _ _ _ _ _ found =>
      cases callee with
      | builtin => trivial
      | defined definition =>
          exact programFree function definition (Callee.definition?_of_find found)
  | body | block => simpa [Activity.IsLoopFree, Statement.isLoopFree] using free
  | chosen _ _ isNext => exact Statement.isLoopFree_of_chosen? free isNext
  | repetition => simp [Activity.IsLoopFree, Statement.isLoopFree] at free
  | firstStatement =>
      simp only [Activity.IsLoopFree, Statement.areLoopFree, Bool.and_eq_true] at free
      exact free.1
  | furtherStatements =>
      simp only [Activity.IsLoopFree, Statement.areLoopFree, Bool.and_eq_true] at free
      exact free.2

/-- Without a loop only the body of a function can be larger than what led to it. -/
theorem LeadsTo.size_lt (leads : first.LeadsTo program rates second)
    (free : first.activity.IsLoopFree) :
    second.activity.size < first.activity.size ∨
      first.machine.calls.length < second.machine.calls.length := by
  cases leads with
  | firstOperand isFirst => exact .inl (Expression.sizeOf_firstOperand? isFirst)
  | secondOperand _ _ isSecond => exact .inl (Expression.sizeOf_secondOperand? isSecond)
  | arguments isCall => exact .inl (Activity.sizeOf_call? isCall)
  | application isCall =>
      exact .inl (Nat.lt_of_le_of_lt (Nat.zero_le _) (Activity.sizeOf_call? isCall))
  | body => exact .inr (Nat.lt_succ_self _)
  | expression begins => exact .inl (Statement.sizeOf_expression? begins)
  | chosen _ _ isNext => exact .inl (Statement.sizeOf_chosen? isNext)
  | repetition => simp [Activity.IsLoopFree, Statement.isLoopFree] at free
  | firstArgument | furtherArguments | block | firstStatement | furtherStatements =>
      left
      simp [Activity.size] <;> omega

theorem finishes_of_isLoopFree (programFree : program.IsLoopFree) (moment : Moment)
    (free : moment.activity.IsLoopFree) : moment.Finishes program rates := by
  apply Advances.finishes
  intro next leads
  exact finishes_of_isLoopFree programFree next (leads.isLoopFree programFree free)
termination_by (maximumCallDepth - moment.machine.calls.length, moment.activity.size)
decreasing_by
  -- Either fewer calls are left to be nested, or as many and what is to be done is smaller.
  rcases leads.height with same | ⟨shallow, deeper⟩
  · rw [same]
    have smaller := (leads.size_lt free).resolve_right (by rw [same]; exact Nat.lt_irrefl _)
    exact Prod.Lex.right _ smaller
  · apply Prod.Lex.left
    omega

end Moment

/-- Programs without loops finish with a value or an error, however their functions call one
another. Calls are nested only up to the maximum, in programs with loops as well. -/
theorem loopFree_program_finishes {program : Program} (free : program.IsLoopFree) (rates : Rates)
    (entry : String) (start : Machine) :
    Action.Finishes (fun steps => (Setting.ofProgram program rates steps).enter entry) start ∧
      ∀ moment : Moment, moment.OfRun program rates entry start →
        moment.machine.calls.length ≤ max maximumCallDepth start.calls.length := by
  refine ⟨?_, fun moment reached => reached.height⟩
  simp only [Setting.enter, Setting.ofProgram]
  cases found : program.definition? entry with
  | none => exact Action.fail_finishes _
  | some definition =>
      have called : Moment.Finishes program rates ⟨.application (.defined definition) [], start⟩ :=
        Moment.finishes_of_isLoopFree free _ (free entry definition found)
      exact Action.bind_finishes called fun _ result after _ => Action.pure_finishes _

def echoProgram : Program :=
  let ping : Definition :=
    { returnType := .int
      name := "ping"
      parameters := []
      body := [.leave (some (.negation (.call "pong" [])))] }
  let pong : Definition :=
    { returnType := .int
      name := "pong"
      parameters := []
      body :=
        [.branch (.literal (.bool true))
          (.block [.leave (some (.arithmetic .add (.literal (.int 1)) (.call "ping" [])))])] }
  (Program.empty.insert ping).insert pong

theorem loopFree_program_finishes_of_echo :
    echoProgram.IsLoopFree ∧
      Action.Finishes (fun steps => (Setting.ofProgram echoProgram .empty steps).enter "ping")
          (.start .unlimited) ∧
        ∀ moment : Moment, moment.OfRun echoProgram .empty "ping" (.start .unlimited) →
          moment.machine.calls.length ≤ max maximumCallDepth 0 := by
  have free : echoProgram.IsLoopFree :=
    (Program.isLoopFree_empty.insert rfl).insert rfl
  exact ⟨free, loopFree_program_finishes free .empty "ping" (.start .unlimited)⟩

end Ducat

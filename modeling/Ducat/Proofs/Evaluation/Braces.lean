import Ducat.Proofs.Evaluation.Alike
import Ducat.Proofs.Evaluation.ScopeNames

/-! Main statement: braces make no difference to a statement that declares nothing outside of
braces of its own. All that they add is a scope that stays empty, among the scopes of the innermost
call. -/

namespace Ducat

namespace Context

variable {name : String} {value : Value}

theorem assignIn_append (inside outside : List Scope) :
    assignIn name value (inside ++ outside) =
      ((assignIn name value inside).map (· ++ outside)).or
        ((assignIn name value outside).map (inside ++ ·)) := by
  induction inside with
  | nil => simp [assignIn]
  | cons scope inside induction =>
      rw [List.cons_append, assignIn, assignIn]
      split
      · rfl
      · rw [induction]
        cases assignIn name value inside with
        | some changed => rfl
        | none => cases assignIn name value outside <;> rfl

theorem assignIn_replicate_empty (count : Nat) :
    assignIn name value (List.replicate count ∅) = none := by
  induction count with
  | zero => rfl
  | succ count induction =>
      rw [List.replicate_succ, assignIn, if_neg (by simp), induction]
      rfl

end Context

/-- How many scopes are empty in the midst of each of two contexts, and how many scopes there are
outside of those. -/
structure Gap where
  count : Nat
  otherCount : Nat
  outside : Nat

namespace Gap

/-- Apart from the empty scopes the contexts have the same ones, and no fewer than `least` inside of
the empty ones. -/
inductive Between (gap : Gap) (least : Nat) : Context → Context → Prop where
  | intro (inside outside : List Scope) (enough : least ≤ inside.length)
      (size : outside.length = gap.outside) :
      Between gap least ⟨inside ++ (List.replicate gap.count ∅ ++ outside)⟩
        ⟨inside ++ (List.replicate gap.otherCount ∅ ++ outside)⟩

inductive Splits (gap : Gap) (least : Nat) : List Context → List Context → Prop where
  | active {context other : Context} {outer : List Context}
      (apart : gap.Between least context other) :
      Splits gap least (context :: outer) (other :: outer)

def SameDepth (before after : Machine) : Prop :=
  after.calls.head?.map Context.depth = before.calls.head?.map Context.depth

def coupling (gap : Gap) (least : Nat) : Coupling where
  linked := Machine.Alike (gap.Splits least) Eq
  moves := SameDepth
  refl _ := rfl
  trans earlier later := later.trans earlier

inductive Updates (gap : Gap) (least : Nat) (update : Context → Except RuntimeError Context)
    (context other : Context) : Prop where
  | failed (error : RuntimeError) (first : update context = .error error)
      (second : update other = .error error)
  | changed {updated otherUpdated : Context} (first : update context = .ok updated)
      (second : update other = .ok otherUpdated) (apart : gap.Between least updated otherUpdated)
      (depth : updated.depth = context.depth)

variable {gap : Gap} {least : Nat}

namespace Between

variable {context other : Context}

theorem fewer {fewer : Nat} (apart : gap.Between least context other) (le : fewer ≤ least) :
    gap.Between fewer context other := by
  cases apart with
  | intro inside outside enough size => exact .intro inside outside (Nat.le_trans le enough) size

theorem depth (apart : gap.Between least context other) :
    least + gap.count + gap.outside ≤ context.depth := by
  cases apart with
  | intro inside outside enough size =>
      rw [Context.depth, List.length_append, List.length_append, List.length_replicate, size]
      omega

theorem value? (apart : gap.Between least context other) (name : String) :
    context.value? name = other.value? name := by
  cases apart with
  | intro inside outside enough size =>
      simp [Context.value?, List.findSome?_append]

theorem openScope (apart : gap.Between least context other) :
    gap.Between (least + 1) context.openScope other.openScope := by
  cases apart with
  | intro inside outside enough size =>
      exact .intro (∅ :: inside) outside (Nat.succ_le_succ enough) size

theorem closeScope (apart : gap.Between 1 context other)
    (deep : least + gap.count + gap.outside < context.depth) :
    gap.Between least context.closeScope other.closeScope := by
  cases apart with
  | intro inside outside enough size =>
      rw [Context.depth, List.length_append, List.length_append, List.length_replicate, size]
        at deep
      cases inside with
      | nil => cases enough
      | cons scope inside =>
          rw [List.length_cons] at deep
          exact .intro inside outside (by omega) size

theorem define (apart : gap.Between 1 context other) (name : String) (value : Value) :
    gap.Updates 1 (fun context => context.define name value) context other := by
  cases apart with
  | intro inside outside enough size =>
      cases inside with
      | nil => cases enough
      | cons scope inside =>
          cases found : scope.contains name with
          | true =>
              refine .failed (.variableExists name) ?_ ?_
              · simp [Context.define, found]
              · simp [Context.define, found]
          | false =>
              refine .changed ?_ ?_
                (.intro (scope.insert name value :: inside) outside enough size) rfl
              · simp [Context.define, found]
              · simp [Context.define, found]

theorem assign (apart : gap.Between least context other) (name : String) (value : Value) :
    gap.Updates least (fun context => context.assign name value) context other := by
  cases apart with
  | intro inside outside enough size =>
      cases assigned : Context.assignIn name value inside with
      | some changed =>
          have length := Context.length_of_assignIn assigned
          refine .changed ?_ ?_ (.intro changed outside (enough.trans_eq length.symm) size) ?_
          · simp [Context.assign, Context.assignIn_append, assigned]
          · simp [Context.assign, Context.assignIn_append, assigned]
          · simp [Context.depth, length]
      | none =>
          cases further : Context.assignIn name value outside with
          | some changed =>
              have length := Context.length_of_assignIn further
              refine .changed ?_ ?_ (.intro inside changed enough (length.trans size)) ?_
              · simp [Context.assign, Context.assignIn_append, Context.assignIn_replicate_empty,
                  assigned, further]
              · simp [Context.assign, Context.assignIn_append, Context.assignIn_replicate_empty,
                  assigned, further]
              · simp [Context.depth, length]
          | none =>
              refine .failed (.unknownVariable name) ?_ ?_
              · simp [Context.assign, Context.assignIn_append, Context.assignIn_replicate_empty,
                  assigned, further]
              · simp [Context.assign, Context.assignIn_append, Context.assignIn_replicate_empty,
                  assigned, further]

end Between

theorem Splits.map_value? {calls others : List Context} (splits : gap.Splits least calls others) :
    calls.head?.map Context.value? = others.head?.map Context.value? := by
  cases splits with
  | active apart => exact congrArg some (funext apart.value?)

theorem Splits.length_eq {calls others : List Context} (splits : gap.Splits least calls others) :
    calls.length = others.length := by
  cases splits with
  | active apart => rfl

theorem updateCall_refines {update : Context → Except RuntimeError Context}
    (updates : ∀ context other, gap.Between least context other →
      gap.Updates least update context other) :
    (Action.updateCall update).Refines (gap.coupling least) (fun _ => True)
      (Action.updateCall update) := by
  rintro ⟨_, output⟩ ⟨_, _⟩ ⟨@⟨context, other, outer, apart⟩, rfl⟩ result after finished
  cases updates context other apart with
  | failed _ first second =>
      rw [Action.updateCall_of_error rfl first] at finished
      cases finished
      exact ⟨_, Action.updateCall_of_error rfl second, ⟨.active apart, rfl⟩, rfl,
        fun _ _ => trivial⟩
  | changed first second stillBetween depth =>
      rw [Action.updateCall_of_ok rfl first] at finished
      cases finished
      exact ⟨_, Action.updateCall_of_ok rfl second, ⟨.active stillBetween, rfl⟩,
        congrArg some depth, fun _ _ => trivial⟩

/-- The scope that is opened lies inside of the empty ones. When it is closed there are as many
scopes as before, so that it is the same one. -/
theorem inScope_refines {α : Type} {good : α → Prop} {action other : Action α}
    (refines : action.Refines (gap.coupling 1) good other) :
    (Action.inScope action).Refines (gap.coupling least) good (Action.inScope other) := by
  rintro ⟨_, output⟩ ⟨_, _⟩ ⟨@⟨context, otherContext, outer, apart⟩, rfl⟩ result after finished
  rw [Action.inScope_of_active action rfl] at finished
  rw [Action.inScope_of_active other rfl]
  rcases Action.exists_of_restoring finished with ⟨⟨_, stillOutput⟩, ran, rfl⟩
  have opened : (gap.coupling 1).linked ⟨context.openScope :: outer, output⟩
      ⟨otherContext.openScope :: outer, output⟩ :=
    ⟨.active (apart.openScope.fewer (by omega)), rfl⟩
  rcases refines _ _ opened result _ ran with
    ⟨⟨_, _⟩, otherRan, ⟨@⟨updated, otherUpdated, stillOuter, stillApart⟩, rfl⟩, depth, isGood⟩
  have sameDepth : updated.depth = context.depth + 1 := Option.some.inj depth
  have closed : gap.Between least updated.closeScope otherUpdated.closeScope := by
    refine stillApart.closeScope ?_
    rw [sameDepth]
    exact Nat.lt_succ_of_le apart.depth
  refine ⟨_, Action.restoring_of_finished otherRan, ⟨.active closed, rfl⟩, ?_, isGood⟩
  refine congrArg some ?_
  change updated.scopes.tail.length = context.depth
  rw [List.length_tail]
  exact Nat.sub_eq_of_eq_add sameDepth

theorem sameDepth_of_sameCalls {before after : Machine} (same : before.SameCalls after) :
    SameDepth before after := by
  rw [SameDepth, same.calls]

theorem coupling_restsOn : (gap.coupling least).RestsOn Calls.SameNumber Eq where
  alike alike := ⟨alike.calls.length_eq, alike.output⟩
  linked alike kept otherKept still := by
    refine ⟨?_, still⟩
    rw [kept.calls, otherKept.calls]
    exact alike.calls
  moves := sameDepth_of_sameCalls

theorem coupling_allowsReading : (gap.coupling least).AllowsReading Discipline.free.good :=
  .of_view fun _ _ alike => alike.calls.map_value?

theorem coupling_allowsStatements :
    (gap.coupling 1).comparison.AllowsStatements Discipline.free.good where
  read := coupling_allowsReading
  define name value _ := updateCall_refines fun _ _ apart => apart.define name value
  assign name value _ := updateCall_refines fun _ _ apart => apart.assign name value
  inScope := inScope_refines

theorem coupling_allowsOutside :
    (gap.coupling least).comparison.AllowsOutside (gap.coupling 1).comparison
      Discipline.free.good where
  read := coupling_allowsReading
  assign name value _ := updateCall_refines fun _ _ apart => apart.assign name value
  inScope := inScope_refines

section

variable (program : Program) (rates : Rates) (steps repetitions : Nat)

theorem setting_compares :
    (Setting.ofProgram program rates steps).Compares (gap.coupling least).comparison
      Discipline.free (.ofProgram program rates steps) := by
  have refines : (Setting.ofProgram program rates steps).Refines (gap.coupling least)
      Discipline.free.good (.ofProgram program rates steps) :=
    Setting.ofProgram_refines (Coupling.sameNumber_sameOutput_allowsCalls program rates)
      (Discipline.free_allowsProgram program) (Nat.le_refl steps)
      (coupling_restsOn.carriesCalls program rates)
  exact refines.compares

/-- A statement that declares nothing may be right inside of the empty scopes. -/
theorem execute_refines {statement : Statement} (plain : statement.DeclaresNothing) :
    (statement.execute (.ofProgram program rates steps) repetitions).Refines (gap.coupling least)
      (Flow.AllGood Discipline.free.good)
      (statement.execute (.ofProgram program rates steps) repetitions) :=
  statement.execute_compares_outside (setting_compares program rates steps) coupling_allowsOutside
    (setting_compares program rates steps) coupling_allowsStatements (Nat.le_refl repetitions)
    trivial (.inl plain)

end

end Gap

namespace Statement

theorem executeAll_singleton (setting : Setting) (steps : Nat) (statement : Statement) :
    executeAll setting steps [statement] = statement.execute setting steps := by
  funext machine
  rw [executeAll]
  cases executed : statement.execute setting steps machine with
  | exhausted => rw [Action.bind_of_exhausted executed]
  | finished result after =>
      cases result with
      | error error => rw [Action.bind_of_error executed]
      | ok flow =>
          rw [Action.bind_of_ok executed]
          cases flow with
          | proceed => rw [executeAll]; rfl
          | leave value => rfl

end Statement

namespace Gap

theorem linked_of_empty (count otherCount : Nat) (context : Context) (outer : List Context)
    (output : Output) :
    (coupling ⟨count, otherCount, context.depth⟩ 0).linked
      ⟨⟨List.replicate count ∅ ++ context.scopes⟩ :: outer, output⟩
      ⟨⟨List.replicate otherCount ∅ ++ context.scopes⟩ :: outer, output⟩ :=
  ⟨.active (.intro [] context.scopes (Nat.le_refl 0) rfl), rfl⟩

/-- The scope that the braces opened is as empty as before when it is closed. -/
theorem closeScope_eq {outside : Nat} {machine other : Machine}
    (linked : (coupling ⟨0, 1, outside⟩ 0).linked machine other)
    (depth : machine.calls.head?.map Context.depth = some outside) :
    other.closeScope = machine := by
  rcases machine with ⟨_, output⟩
  rcases other with ⟨_, otherOutput⟩
  rcases linked with ⟨@⟨_, _, outer, ⟨inside, scopes, _, size⟩⟩, rfl⟩
  have total : inside.length + scopes.length = outside := by
    rw [← List.length_append]
    exact Option.some.inj depth
  cases inside with
  | nil => rfl
  | cons scope inside =>
      have allOutside : scopes.length = outside := size
      rw [List.length_cons] at total
      omega

end Gap

/-- Braces around a statement make no difference, unless it declares a variable in the scope that
they open. -/
theorem braces_make_no_difference (program : Program) (rates : Rates) (steps repetitions : Nat)
    {statement : Statement} (plain : statement.DeclaresNothing) {machine : Machine}
    (active : machine.calls ≠ []) :
    (Statement.block [statement]).execute (.ofProgram program rates steps) repetitions machine =
      statement.execute (.ofProgram program rates steps) repetitions machine := by
  rcases machine with ⟨calls, output⟩
  cases calls with
  | nil => exact absurd rfl active
  | cons context outer =>
      rw [Statement.execute, Statement.executeAll_singleton, Action.inScope_of_active _ rfl]
      change Action.restoring Machine.closeScope _ ⟨context.openScope :: outer, output⟩ = _
      have refines (gap : Gap) : (statement.execute (.ofProgram program rates steps)
          repetitions).Refines (gap.coupling 0) (Flow.AllGood Discipline.free.good)
          (statement.execute (.ofProgram program rates steps) repetitions) :=
        Gap.execute_refines program rates steps repetitions plain
      cases ran : statement.execute (.ofProgram program rates steps) repetitions
          ⟨context :: outer, output⟩ with
      | finished result after =>
          have added : (Gap.coupling ⟨0, 1, context.depth⟩ 0).linked ⟨context :: outer, output⟩
              ⟨context.openScope :: outer, output⟩ := Gap.linked_of_empty 0 1 context outer output
          rcases refines _ _ _ added result after ran with ⟨_, braced, stillLinked, depth, _⟩
          rw [Action.restoring_of_finished braced, Gap.closeScope_eq stillLinked depth]
      | exhausted =>
          cases braced : statement.execute (.ofProgram program rates steps) repetitions
              ⟨context.openScope :: outer, output⟩ with
          | exhausted => simp only [Action.restoring, braced]
          | finished result after =>
              have removed : (Gap.coupling ⟨1, 0, context.depth⟩ 0).linked
                  ⟨context.openScope :: outer, output⟩ ⟨context :: outer, output⟩ :=
                Gap.linked_of_empty 1 0 context outer output
              rcases refines _ _ _ removed result after braced with ⟨_, finished, _⟩
              rw [ran] at finished
              cases finished

def countdownBranch : Statement :=
  .branch (.literal (.bool true)) (.block countdownStatements)

theorem braces_make_no_difference_of_countdown :
    countdownBranch.DeclaresNothing ∧ (nestedMachine 2 (.start .unlimited)).calls ≠ [] ∧
      (Statement.block [countdownBranch]).execute (.ofProgram wastefulProgram .empty 4) 3
          (nestedMachine 2 (.start .unlimited)) =
        .finished (.error .divisionByZero) (nestedMachine 1 ⟨.unlimited, #[0x31, 0x0A], 1⟩) := by
  have plain : countdownBranch.DeclaresNothing := trivial
  have active : (nestedMachine 2 (.start .unlimited)).calls ≠ [] := nofun
  refine ⟨plain, active, ?_⟩
  rw [braces_make_no_difference wastefulProgram .empty 4 3 plain active]
  cbv

end Ducat

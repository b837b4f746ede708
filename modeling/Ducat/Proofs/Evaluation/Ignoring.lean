import Ducat.Proofs.Evaluation.Refinement.Call

/-! Two runs side by side of which the first one may fail in certain ways that do not count. It is
then taken for a run that never finishes, of which there is nothing to compare. -/

namespace Ducat

def Outcome.ignoring {α : Type} (ignored : RuntimeError → Bool) : Outcome α → Outcome α
  | .exhausted => .exhausted
  | .finished (.ok value) after => .finished (.ok value) after
  | .finished (.error error) after =>
      if ignored error then .exhausted else .finished (.error error) after

namespace Action

variable {ignored : RuntimeError → Bool}

/-- The same action, except that it runs out of steps where it fails with an ignored error. -/
def ignoring {α : Type} (ignored : RuntimeError → Bool) (action : Action α) : Action α :=
  fun machine => (action machine).ignoring ignored

section

variable {α β : Type} {action : Action α} {machine after : Machine}
variable {result : Except RuntimeError α}

theorem ignoring_of_finished (finished : action machine = .finished result after)
    (counts : ∀ error, result = .error error → ignored error = false) :
    action.ignoring ignored machine = .finished result after := by
  rw [ignoring, finished]
  cases result with
  | ok value => rfl
  | error error => exact if_neg (Bool.eq_false_iff.mp (counts error rfl))

theorem finished_of_ignoring (finished : action.ignoring ignored machine = .finished result after) :
    action machine = .finished result after ∧
      ∀ error, result = .error error → ignored error = false := by
  rw [ignoring] at finished
  cases ran : action machine with
  | exhausted =>
      rw [ran] at finished
      cases finished
  | finished outcome between =>
      rw [ran] at finished
      cases outcome with
      | ok value =>
          cases finished
          exact ⟨rfl, nofun⟩
      | error error =>
          rw [Outcome.ignoring] at finished
          split at finished <;> cases finished
          next counted =>
            refine ⟨rfl, fun other equal => ?_⟩
            cases equal
            exact Bool.eq_false_iff.mpr counted

theorem bind_of_ignoring {continuation : α → Action β} {result : Except RuntimeError β}
    (finished : (action >>= continuation).ignoring ignored machine = .finished result after) :
    (action.ignoring ignored >>= fun value => (continuation value).ignoring ignored) machine =
      .finished result after := by
  rcases finished_of_ignoring finished with ⟨finished, counts⟩
  cases ran : action machine with
  | exhausted =>
      rw [bind_of_exhausted ran] at finished
      cases finished
  | finished outcome between =>
      cases outcome with
      | error error =>
          rw [bind_of_error ran] at finished
          cases finished
          refine bind_of_error (ignoring_of_finished ran fun other equal => ?_)
          cases equal
          exact counts error rfl
      | ok value =>
          rw [bind_of_ok ran] at finished
          rw [bind_of_ok (ignoring_of_finished ran nofun)]
          exact ignoring_of_finished finished counts

theorem restoring_of_ignoring {restore : Machine → Machine}
    (finished : (restoring restore action).ignoring ignored machine = .finished result after) :
    restoring restore (action.ignoring ignored) machine = .finished result after := by
  rcases finished_of_ignoring finished with ⟨finished, counts⟩
  rcases exists_of_restoring finished with ⟨between, ran, rfl⟩
  exact restoring_of_finished (ignoring_of_finished ran counts)

theorem inCall_of_ignoring {scope : Scope}
    (finished : (inCall scope action).ignoring ignored machine = .finished result after) :
    inCall scope (action.ignoring ignored) machine = .finished result after :=
  restoring_of_ignoring finished

theorem inScope_of_ignoring
    (finished : (inScope action).ignoring ignored machine = .finished result after) :
    inScope (action.ignoring ignored) machine = .finished result after := by
  cases active : machine.calls with
  | nil =>
      have idle := (finished_of_ignoring finished).1
      rw [inScope_of_idle _ active] at idle ⊢
      exact idle
  | cons context outer =>
      rw [ignoring, inScope_of_active _ active] at finished
      rw [inScope_of_active _ active]
      exact restoring_of_ignoring finished

end

section

variable {coupling : Coupling} {α : Type} {good : α → Prop} {first other second : Action α}

theorem Refines.of_finished (refines : other.Refines coupling good second)
    (same : ∀ {machine result after}, first machine = .finished result after →
      other machine = .finished result after) :
    first.Refines coupling good second :=
  fun machine otherMachine linked result after finished =>
    refines machine otherMachine linked result after (same finished)

theorem Refines.ignoring (refines : first.Refines coupling good second)
    (ignored : RuntimeError → Bool) : (first.ignoring ignored).Refines coupling good second :=
  refines.of_finished fun finished => (finished_of_ignoring finished).1

end

end Action

namespace Coupling

def ignoring (coupling : Coupling) (ignored : RuntimeError → Bool) : Comparison where
  holds good first second := (first.ignoring ignored).Refines coupling good second
  exhaust _ action := (Action.exhaust_refines action).ignoring ignored
  pure isGood := (Action.pure_refines isGood).ignoring ignored
  fail _ error := (Action.fail_refines error).ignoring ignored
  bind refines behind := (Action.bind_refines refines behind).of_finished Action.bind_of_ignoring

theorem AllowsStatements.ignoring {coupling : Coupling} {good : Value → Prop}
    {ignored : RuntimeError → Bool} (allows : coupling.AllowsStatements good) :
    (coupling.ignoring ignored).AllowsStatements good where
  read name := (allows.read name).ignoring ignored
  define name value isGood := (allows.define name value isGood).ignoring ignored
  assign name value isGood := (allows.assign name value isGood).ignoring ignored
  inScope refines := (allows.inScope refines).of_finished Action.inScope_of_ignoring

end Coupling

end Ducat

import Ducat.Evaluation.Statement

/-! Calls of the functions of a program. -/

namespace Ducat

def maximumCallDepth : Nat := 1000

namespace Definition

/-- Runs a function on its arguments. Calls inside it are nested fewer than `steps` times, and
loops are repeated fewer than `steps` times. -/
def invoke (program : Program) (rates : Rates) :
    Nat → Definition → List Value → Action (Option Value)
  | 0, _, _ => Action.exhaust
  | steps + 1, definition, arguments => do
      checkArgumentCount definition.name definition.parameters.length arguments.length
      if maximumCallDepth ≤ (← Action.callDepth) then
        Action.fail (.callDepthExceeded definition.name maximumCallDepth)
      else
        let scope ← definition.bind arguments
        let setting : Setting := ⟨program, rates, invoke program rates steps⟩
        let flow ← Action.inCall scope (Statement.executeBlock setting steps definition.body)
        definition.checkReturn flow

end Definition

namespace Setting

def ofProgram (program : Program) (rates : Rates) (steps : Nat) : Setting :=
  ⟨program, rates, Definition.invoke program rates steps⟩

def enter (setting : Setting) (entry : String) : Action (Option Value) :=
  match setting.program.definition? entry with
  | none => Action.fail (.missingEntry entry)
  | some definition => do
      let result ← setting.invoke definition []
      return if definition.returnType = .void then none else result

end Setting

def entryName : String := "main"

end Ducat

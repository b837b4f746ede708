import Ducat.Machine.Output
import Ducat.Machine.Scope

/-! The state in which a program runs: its active calls and its output. -/

namespace Ducat

structure Machine where
  /-- The active calls, the innermost one first. -/
  calls : List Context
  output : Output

namespace Machine

def start (device : Device) : Machine := ⟨[], .start device⟩

def withCall (machine : Machine) (context : Context) : Machine :=
  { machine with calls := context :: machine.calls.tail }

def enterCall (machine : Machine) (context : Context) : Machine :=
  { machine with calls := context :: machine.calls }

def leaveCall (machine : Machine) : Machine :=
  { machine with calls := machine.calls.tail }

def closeScope (machine : Machine) : Machine :=
  match machine.calls with
  | [] => machine
  | context :: outer => { machine with calls := context.closeScope :: outer }

theorem closeScope_of_idle {machine : Machine} (idle : machine.calls = []) :
    machine.closeScope = machine := by
  simp only [closeScope, idle]

theorem closeScope_of_active {machine : Machine} {context : Context} {outer : List Context}
    (active : machine.calls = context :: outer) :
    machine.closeScope = machine.withCall context.closeScope := by
  simp only [closeScope, withCall, active, List.tail_cons]

end Machine

end Ducat

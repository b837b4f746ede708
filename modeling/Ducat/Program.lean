import Ducat.Statement
import Std.Data.ExtTreeMap

/-! Programs: function definitions that are known by their names. -/

namespace Ducat

/-- A parameter without a type takes a value of any type. -/
structure Parameter where
  type : Option ValueType
  name : String
deriving DecidableEq, Repr

structure Definition where
  returnType : ValueType
  name : String
  parameters : List Parameter
  body : List Statement

/-- The definitions have no order, so that programs that differ only in it are equal. -/
structure Program where
  definitions : Std.ExtTreeMap String Definition

namespace Program

def empty : Program := ⟨∅⟩

def definition? (program : Program) (name : String) : Option Definition :=
  program.definitions[name]?

def insert (program : Program) (definition : Definition) : Program :=
  ⟨program.definitions.insert definition.name definition⟩

theorem definition?_insert_self (program : Program) (definition : Definition) :
    (program.insert definition).definition? definition.name = some definition := by
  simp [definition?, insert]

theorem definition?_insert_of_ne (program : Program) (definition : Definition) {name : String}
    (different : definition.name ≠ name) :
    (program.insert definition).definition? name = program.definition? name := by
  simp [definition?, insert, Std.ExtTreeMap.getElem?_insert, different]

theorem eq_of_definition?_eq {first second : Program}
    (equal : ∀ name, first.definition? name = second.definition? name) : first = second := by
  cases first
  cases second
  exact congrArg mk (Std.ExtTreeMap.ext_getElem? equal)

end Program

end Ducat

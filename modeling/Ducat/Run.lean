import Ducat.Evaluation.Call
import Ducat.Failure
import Ducat.Grammar.Definition

/-! Runs of programs that are given as texts or files. -/

namespace Ducat

namespace Program

def ofText (currencies : List String) (text : String) : Except Failure Program :=
  match Lexer.start currencies text with
  | .error error => .error (.firstToken error)
  | .ok lexer =>
      match lexer.toSignificant with
      | .error error => .error (.grammar (.lexical error))
      | .ok lexer => (Grammar.program lexer).mapError .grammar

end Program

structure Project where
  configuration : Configuration
  program : Program

namespace Project

def readConfiguration (text : String) : Except Failure Configuration :=
  (Configuration.ofText text).mapError .configuration

def ofTexts (configuration program : String) : Except Failure Project := do
  let configuration ← readConfiguration configuration
  return ⟨configuration, ← Program.ofText configuration.currencies program⟩

def textOfFile (name : String) (content : Except FileFault ByteArray) : Except Failure String :=
  match content with
  | .error fault => .error (.file name fault)
  | .ok bytes =>
      match String.fromUTF8? bytes with
      | some text => .ok text
      | none => .error (.file name .notText)

/-- The program file is not looked at before the configuration was read. -/
def ofFiles (configurationName : String) (configuration : Except FileFault ByteArray)
    (programName : String) (program : Except FileFault ByteArray) :
    Except Failure Project := do
  let configuration ← readConfiguration (← textOfFile configurationName configuration)
  let program ← textOfFile programName program
  return ⟨configuration, ← Program.ofText configuration.currencies program⟩

def setting (project : Project) (steps : Nat) : Setting :=
  .ofProgram project.program project.configuration.rates steps

end Project

structure Report where
  result : Except Failure (Option Value)
  written : Array UInt8

namespace Report

/-- Runs a project, unless it could not be read in the first place. There is no report if `steps`
do not suffice. -/
def ofProject? (steps : Nat) (device : Device) : Except Failure Project → Option Report
  | .error failure => some ⟨.error failure, #[]⟩
  | .ok project =>
      match (project.setting steps).enter entryName (.start device) with
      | .exhausted => none
      | .finished result machine =>
          some ⟨result.mapError .runtime, machine.output.written⟩

end Report

end Ducat

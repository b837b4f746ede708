import Ducat.Console

/-! The command line: `ducat CONFIGURATION PROGRAM` runs a program file. -/

namespace Ducat

/-- More steps than any run can take. -/
def ampleSteps : Nat := 1000000000000000000

def contentOf (name : String) : IO (Except FileFault ByteArray) := do
  try
    return .ok (← IO.FS.readBinFile name)
  catch
    | .noFileOrDirectory .. => return .error .missing
    | error => return .error (.unreadable (toString error))

end Ducat

open Ducat

def main (arguments : List String) : IO UInt32 := do
  match arguments with
  | [configuration, program] =>
      let project := Project.ofFiles configuration (← contentOf configuration)
        program (← contentOf program)
      match Report.ofProject? ampleSteps .unlimited project with
      | none => return 2
      | some report =>
          let console := Console.ofReport report
          (← IO.getStdout).write ⟨console.output⟩
          IO.eprint console.errors
          return console.exitCode
  | _ =>
      IO.eprintln "Usage: ducat CONFIGURATION PROGRAM"
      return 2

import Ducat.Run

/-! What the command line shows of a run. -/

namespace Ducat

structure Console where
  exitCode : UInt32
  output : Array UInt8
  errors : String

namespace Console

def resultText : Option Value → String
  | some value => value.text
  | none => ""

def ofReport (report : Report) : Console :=
  match report.result with
  | .ok result =>
      let line := Output.lineBytes ("Program execution result: " ++ resultText result)
      ⟨0, report.written ++ line.toArray, ""⟩
  | .error failure =>
      ⟨1, report.written, failure.category ++ ": " ++ failure.message ++ "\n"⟩

end Console

end Ducat

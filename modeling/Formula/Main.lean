import Formula.CommandLine.Run
import Std.Time.DateTime

/-
  The command that evaluates an expression.
-/

namespace Formula

/- The name and the version of the command. -/
def versionText : String :=
  "formula 0.1.0"

/- The time that the clock shows. -/
def readClock : IO Timestamp := do
  let now ← Std.Time.Timestamp.now
  let nanos := now.toNanosecondsSinceUnixEpoch.val
  return (Timestamp.ofInstant? nanos 0).getD .epoch

/- The present moment. -/
def readMoment : IO Moment := do
  let now ← readClock
  let parts ← IO.rand 0 16777215
  return ⟨now, (Float.ofNat parts / 16777216).toFloat32⟩

/- The text of the file that some arguments ask to read. -/
def readInput
    (arguments : List String) : IO (Option String) := do
  match Invocation.fileOf? arguments with
  | none => return none
  | some path =>
      try
        return some (← IO.FS.readFile path)
      catch _ =>
        return none

end Formula

/- Read what is needed, work, and print what came of it. -/
def main
    (arguments : List String) : IO UInt32 := do
  let moment ← Formula.readMoment
  let text ← Formula.readInput arguments
  let invocation : Formula.Invocation :=
    ⟨Formula.versionText, arguments, fun _ => text, moment⟩
  let report := invocation.run
  IO.print report.output
  IO.eprint report.errors
  return report.status.toUInt32

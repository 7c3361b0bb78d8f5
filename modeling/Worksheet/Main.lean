import Worksheet.Command.Run
import Std.Time.Zoned

/-!
# The program

Reads the command line, the file it names and the clock, and does what they come to.
-/

namespace Worksheet.Command

/-- A moment of the system's calendar. -/
def momentOf (t : Std.Time.PlainDateTime) : Moment :=
  let moment? := do
    let date ← Date.ofParts? t.date.year.toInt t.date.month.toNat t.date.day.toNat
    Moment.ofTime? date t.time.hour.toNat t.time.minute.toNat t.time.second.toNat
      t.time.nanosecond.toNat
  moment?.getD (Moment.midnight Date.epoch)

/-- The local time, or universal time where no time zone is known. -/
def readClock : IO Moment := do
  try
    return momentOf (← Std.Time.PlainDateTime.now)
  catch _ =>
    let now ← Std.Time.Timestamp.now
    return momentOf (Std.Time.DateTime.ofTimestamp now .UTC).toPlainDateTime

/-- What is found at a path. -/
def find (path : String) : IO Found := do
  let file ←
    try IO.FS.Handle.mk path .read
    catch _ => return .nothing
  try
    return .octets (← file.readBinToEnd).toList
  catch _ =>
    return .unreadable

/-- Creates the file of a plan, if it asks for one, and tells whether it could. -/
def create : Plan → IO Bool
  | .done _ => return true
  | .create path content _ => do
    let file ←
      try IO.FS.Handle.mk path .write
      catch _ => return false
    file.putStr content
    return true

/-- Does what a request comes to. -/
def carryOut (request : Request) : IO Report := do
  let found ← match request.inputPath? with
    | some path => find path
    | none => pure .nothing
  let plan := request.plan found (← readClock)
  return plan.report (← create plan)

/-- Runs the program on a command line. -/
def runWords (words : List String) : IO UInt32 := do
  let report ← match Request.parse words with
    | .ok request => carryOut request
    | .error stop => pure (Report.ofStop stop)
  IO.print report.output
  IO.eprint report.messages
  return report.exitCode.toUInt32

end Worksheet.Command

def main (words : List String) : IO UInt32 :=
  Worksheet.Command.runWords words

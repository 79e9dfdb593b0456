import NetworkLayer.CommandLine
import Std.Time.Format
import Std.Time.Zoned

/-! The program: it finds out about the files and the time, and carries out the actions. -/

namespace NetworkLayer

/-- The time now, in the zone of the prime meridian. -/
def timeNow : IO String := do
  let now := Std.Time.DateTime.ofTimestamp (← Std.Time.Timestamp.now) .UTC
  return now.format "uuuu-MM-dd'T'HH:mm:ss.SSSSSSSSS" ++ "+00:00"

/-- The text of a file, or why it cannot be read. -/
def readText (path : String) : IO (Except String String) := do
  return (← (IO.FS.readFile path).toBaseIO).mapError toString

/-- Prints why a command failed, and its exit code. -/
def failWith (message : String) : IO UInt32 := do
  IO.eprintln (failureLine message)
  return 1

/-- Carries out actions in order and tells the exit code. -/
def perform : List Action → IO UInt32
  | [] => return 0
  | .print line :: actions => do
    IO.println line
    perform actions
  | .write path text :: actions => do
    match ← (IO.FS.writeFile path text).toBaseIO with
    | .ok () => perform actions
    | .error cause => failWith ("Failed to write lock file: " ++ toString cause)
  | .fail message :: _ => failWith message

/-- Carries out a command; devices of the machine are out of its reach. -/
def Command.execute (command : Command) : IO UInt32 := do
  -- Opening one takes rights on the machine that this program does not ask for.
  let device := fun _ => .error (.device "Operation not permitted (os error 1)")
  perform (command.actions ⟨← readText command.configPath, ← timeNow, device⟩)

end NetworkLayer

/-- Runs the command that the arguments spell. -/
def main (arguments : List String) : IO UInt32 := do
  match NetworkLayer.Command.parse? arguments with
  | some command => command.execute
  | none =>
    IO.eprintln NetworkLayer.Command.usage
    return 2

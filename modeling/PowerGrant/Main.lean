import PowerGrant.Program
import Std.Time.DateTime.Timestamp

/-!
# The command line

The program on a machine: variables, files and streams are those of the system; other programs are not
run. It prints the definition of the workload kind and starts the daemon. A daemon that is ready says so
and stops: to run it takes a transport, and none to a real network is part of this library.
-/

open PowerGrant

/-- The text of a file, if it can be read. -/
def readFile? (path : String) : IO (Option String) := do
  try
    return some (← IO.FS.readFile path)
  catch _ =>
    return none

/-- Opens a log file in a directory, which is made if need be. -/
def openLogFile (directory : String) : IO Bool := do
  try
    IO.FS.createDirAll directory
    let _ ← IO.FS.Handle.mk s!"{directory}/{Program.name}.log" .append
    return true
  catch _ =>
    return false

/-- What surrounds the program. -/
def surroundings : IO (Program.System IO) := do
  let values ← Program.variableNames.filterMapM fun name => do
    return (← IO.getEnv name).map (name, ·)
  return {
    env := fun name => values.lookup name
    read := readFile?
    run := fun _ _ => return none
    now := (← Std.Time.Timestamp.now).toSecondsSinceUnixEpoch.val
    openLog := openLogFile }

/-- Runs the program. -/
def main (args : List String) : IO UInt32 := do
  let start ← Program.start (← surroundings) args
  IO.print start.output
  for line in start.lines do
    IO.eprintln s!"{line.level.word} {line.target}: {line.text}"
  if let some notice := start.logFile.notice? then
    IO.eprintln s!"{notice}, logging to stderr only"
  if let some error := start.ending.error? then
    IO.eprintln error
  match start.ending with
  | .ready _ access =>
    IO.eprintln s!"Error: no transport to {access.server}"
    return 1
  | ending => return .ofNat ending.code

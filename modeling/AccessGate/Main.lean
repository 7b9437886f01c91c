/-
# The executable

Reads the configuration file that the arguments name, runs the program on it and
prints the outcome.
-/
import AccessGate.Host

namespace AccessGate

/-- What a path leads to on disk. A path through a file cannot be opened, which names
the path; a directory can be opened, but not read. -/
def readState (path : String) : IO FileState := do
  try
    return .text (← IO.FS.readFile path)
  catch e =>
    match e with
    | .noFileOrDirectory _ _ _ | .inappropriateType (some _) _ _ => return .absent
    | _ => return .unreadable

end AccessGate

/-- Run the program; the exit code is 0, or 1 for an error and 2 for a wrong command
line. -/
def main (args : List String) : IO UInt32 := do
  let state ← AccessGate.readState (AccessGate.Host.configFile args).1
  let outcome := AccessGate.Host.run (fun _ => state) args
  IO.print outcome.printed
  if let some message := outcome.message then
    IO.eprintln ("Error: " ++ message)
  return outcome.exitCode.toUInt32
